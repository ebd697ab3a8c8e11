import GatewayConfig.Proofs.Text.Lowercase
import GatewayConfig.Text.Pattern
import Mathlib.Computability.Language

/-! # Laws of patterns

A pattern stands for a language, built with union, product and closure. Derivatives accept exactly
the texts of that language. Of the characters beyond ASCII just two fold into ASCII, the long s and
the Kelvin sign, so these are what an ASCII class takes besides its letters in both cases.
-/

namespace GatewayConfig
open scoped Computability

namespace Text

theorem caseRuns_above_ascii : ((foldingRuns ++ lowercaseRuns).all fun r =>
    r == ⟨0x41, 0x5A, 1, 32⟩ || r == ⟨0x17F, 0x17F, 1, -268⟩ ||
      r == ⟨0x212A, 0x212A, 1, -8383⟩ || 0x80 ≤ r.lower r.first) = true := by
  decide +kernel

/-- A character is folded by a run of one of the tables or not at all. -/
theorem foldCode_cases (n : Nat) : foldCode n = n ∨
    ∃ r ∈ foldingRuns ++ lowercaseRuns, r.covers n = true ∧ foldCode n = r.lower n := by
  cases hfold : foldingRuns.find? (·.covers n) with
  | some r =>
    exact Or.inr ⟨r, List.mem_append_left _ (List.mem_of_find?_eq_some hfold),
      by simpa using List.find?_some hfold, by simp [foldCode, hfold, CaseRun.lower]⟩
  | none =>
    cases hlower : lowercaseRuns.find? (·.covers n) with
    | some r =>
      exact Or.inr ⟨r, List.mem_append_right _ (List.mem_of_find?_eq_some hlower),
        by simpa using List.find?_some hlower,
        by simp [foldCode, hfold, lowerCode, hlower, CaseRun.lower]⟩
    | none => exact Or.inl (by simp [foldCode, hfold, lowerCode, hlower])

/-- The long s and the Kelvin sign alone come into ASCII by folding. -/
theorem of_foldCode_lt {n : Nat} (h : foldCode n < 0x80) : n < 0x80 ∨ n = 0x17F ∨ n = 0x212A := by
  rcases foldCode_cases n with hself | ⟨r, hr, hn, hlower⟩
  · omega
  · obtain ⟨hfirst, hlast, -⟩ := CaseRun.covers_iff.mp hn
    have hrun := List.all_eq_true.mp caseRuns_above_ascii r hr
    simp only [Bool.or_eq_true, beq_iff_eq, decide_eq_true_eq] at hrun
    rcases hrun with ((rfl | rfl) | rfl) | habove
    · exact Or.inl (by simp only at hlast; omega)
    · exact Or.inr (Or.inl (Nat.le_antisymm hlast hfirst))
    · exact Or.inr (Or.inr (Nat.le_antisymm hlast hfirst))
    · simp only [CaseRun.lower] at habove hlower
      omega

theorem foldCode_of_lt {n : Nat} (h : n < 0x80) :
    foldCode n = if 0x41 ≤ n ∧ n ≤ 0x5A then n + 32 else n := by
  have hall : ∀ k : Fin 0x80, foldCode k =
      if 0x41 ≤ (k : Nat) ∧ (k : Nat) ≤ 0x5A then (k : Nat) + 32 else k := by
    decide +kernel
  exact hall ⟨n, h⟩

theorem toNat_toLower (c : Char) : c.toLower.toNat =
    if 0x41 ≤ c.toNat ∧ c.toNat ≤ 0x5A then c.toNat + 32 else c.toNat := by
  have hcapital : (c.val ≥ 'A'.val ∧ c.val ≤ 'Z'.val) ↔ 0x41 ≤ c.toNat ∧ c.toNat ≤ 0x5A := Iff.rfl
  unfold Char.toLower
  split
  next h =>
    have hsum : (c.val + ('a'.val - 'A'.val)).toNat = c.toNat + 32 := by
      rw [UInt32.toNat_add, show ('a'.val - 'A'.val).toNat = 32 from rfl, ← Char.toNat,
        Nat.mod_eq_of_lt (by have := (hcapital.mp h).2; omega)]
    rw [if_pos (hcapital.mp h)]
    exact hsum
  next h => rw [if_neg (mt hcapital.mpr h)]

/-- An ASCII character folds to its small letter. Beyond ASCII there are two letters that fold into
ASCII. -/
theorem foldCode_toNat_cases (c : Char) :
    c.toNat < 0x80 ∧ foldCode c.toNat = c.toLower.toNat ∨
      c = 'ſ' ∧ foldCode c.toNat = 's'.toNat ∨ c = '\u212A' ∧ foldCode c.toNat = 'k'.toNat ∨
      0x80 ≤ c.toNat ∧ 0x80 ≤ foldCode c.toNat := by
  by_cases hc : c.toNat < 0x80
  · exact Or.inl ⟨hc, by rw [foldCode_of_lt hc, toNat_toLower]⟩
  · by_cases hfold : foldCode c.toNat < 0x80
    · rcases of_foldCode_lt hfold with h | h | h
      · exact absurd h hc
      · obtain rfl : c = 'ſ' := Char.toNat_inj.mp h
        exact Or.inr (Or.inl ⟨rfl, by decide +kernel⟩)
      · obtain rfl : c = '\u212A' := Char.toNat_inj.mp h
        exact Or.inr (Or.inr (Or.inl ⟨rfl, by decide +kernel⟩))
    · exact Or.inr (Or.inr (Or.inr ⟨Nat.le_of_not_lt hc, Nat.le_of_not_lt hfold⟩))

end Text

namespace CharClass

/-- An ASCII class that disregards case takes letters in both cases and at most two characters
beyond ASCII. -/
theorem takes_anyCase_iff {ranges : List Text.CodeRange} (hascii : ∀ r ∈ ranges, r.last < 0x80)
    {c : Char} : (CharClass.mk ranges true).takes c = true ↔
      (CharClass.mk ranges false).takes c.toLower = true ∨
        c = 'ſ' ∧ (CharClass.mk ranges false).takes 's' = true ∨
        c = '\u212A' ∧ (CharClass.mk ranges false).takes 'k' = true := by
  have hbeyond (n : Nat) (hn : 0x80 ≤ n) : ranges.any (·.covers n) = false := by
    rw [List.any_eq_false]
    intro r hr
    have := hascii r hr
    simp only [Text.CodeRange.covers, Bool.and_eq_true, decide_eq_true_eq]
    omega
  have hlower : 0x80 ≤ c.toNat → (CharClass.mk ranges false).takes c.toLower = false := by
    intro hc
    refine hbeyond c.toLower.toNat ?_
    rw [Text.toNat_toLower]
    split <;> omega
  rw [show (CharClass.mk ranges true).takes c =
    ranges.any (·.covers (Text.foldCode c.toNat)) from rfl]
  -- From beyond ASCII, only the long s and the Kelvin sign fold into it.
  rcases Text.foldCode_toNat_cases c with ⟨hc, hfold⟩ | ⟨rfl, hfold⟩ | ⟨rfl, hfold⟩ | ⟨hc, hfold⟩
  · have hs : c ≠ 'ſ' := by
      rintro rfl
      exact absurd hc (by decide)
    have hk : c ≠ '\u212A' := by
      rintro rfl
      exact absurd hc (by decide)
    rw [hfold]
    simp [takes, hs, hk]
  · rw [hfold, hlower (by decide)]
    simp [takes]
  · rw [hfold, hlower (by decide)]
    simp [takes]
  · have hs : c ≠ 'ſ' := by
      rintro rfl
      exact absurd hfold (by decide +kernel)
    have hk : c ≠ '\u212A' := by
      rintro rfl
      exact absurd hfold (by decide +kernel)
    rw [hbeyond _ hfold, hlower hc]
    simp [hs, hk]

theorem takes_iff {ranges : List Text.CodeRange} {c : Char} :
    (CharClass.mk ranges false).takes c = true ↔
      ∃ r ∈ ranges, r.first ≤ c.toNat ∧ c.toNat ≤ r.last := by
  simp [takes, Text.CodeRange.covers]

theorem takes_between_iff {first last c : Char} :
    (CharClass.mk [.between first last] false).takes c = true ↔
      first.toNat ≤ c.toNat ∧ c.toNat ≤ last.toNat := by
  simp [takes_iff, Text.CodeRange.between]

end CharClass

namespace Pattern

/-- The texts that a pattern stands for. -/
def language : Pattern → Language Char
  | never => 0
  | empty => 1
  | one k => {t | ∃ c, k.takes c = true ∧ t = [c]}
  | seq p q => p.language * q.language
  | either p q => p.language + q.language
  | many p => p.language∗

theorem mem_language_one {k : CharClass} {t : Text} :
    t ∈ (one k).language ↔ ∃ c, k.takes c = true ∧ t = [c] := Iff.rfl

theorem mem_language_either {p q : Pattern} {t : Text} :
    t ∈ (either p q).language ↔ t ∈ p.language ∨ t ∈ q.language := Language.mem_add _ _ t

theorem nil_mem_mul {l m : Language Char} : [] ∈ l * m ↔ [] ∈ l ∧ [] ∈ m := by
  simp [Language.mem_mul]

theorem cons_mem_mul {l m : Language Char} {c : Char} {t : Text} : c :: t ∈ l * m ↔
    (∃ a, c :: a ∈ l ∧ ∃ b ∈ m, a ++ b = t) ∨ [] ∈ l ∧ c :: t ∈ m := by
  rw [Language.mem_mul]
  constructor
  · rintro ⟨a, ha, b, hb, hsplit⟩
    cases a with
    | nil => exact Or.inr ⟨ha, by rwa [← hsplit]⟩
    | cons d a =>
      obtain ⟨rfl, rfl⟩ := List.cons.inj hsplit
      exact Or.inl ⟨a, ha, b, hb, rfl⟩
  · rintro (⟨a, ha, b, hb, rfl⟩ | ⟨hnil, ht⟩)
    · exact ⟨c :: a, ha, b, hb, rfl⟩
    · exact ⟨[], hnil, c :: t, ht, rfl⟩

theorem cons_mem_kstar {l : Language Char} {c : Char} {t : Text} :
    c :: t ∈ l∗ ↔ ∃ a, c :: a ∈ l ∧ ∃ b ∈ l∗, a ++ b = t := by
  constructor
  · rw [Language.mem_kstar_iff_exists_nonempty]
    rintro ⟨pieces, hsplit, hpieces⟩
    cases pieces with
    | nil => cases hsplit
    | cons first rest =>
      obtain ⟨hfirst, hne⟩ := hpieces first List.mem_cons_self
      obtain ⟨d, a, rfl⟩ := List.exists_cons_of_ne_nil hne
      obtain ⟨rfl, rfl⟩ := List.cons.inj hsplit
      have hrest : rest.flatten ∈ l∗ :=
        Language.join_mem_kstar fun y hy => (hpieces y (List.mem_cons_of_mem _ hy)).1
      exact ⟨a, hfirst, rest.flatten, hrest, rfl⟩
  · rintro ⟨a, ha, b, hb, rfl⟩
    rw [← Language.one_add_self_mul_kstar_eq_kstar]
    exact Or.inr (Language.append_mem_mul ha hb)

theorem acceptsEmpty_iff (p : Pattern) : p.acceptsEmpty = true ↔ [] ∈ p.language := by
  induction p with
  | never => simp [acceptsEmpty, language]
  | empty => simp [acceptsEmpty, language]
  | one k => simp [acceptsEmpty, mem_language_one]
  | seq p q ihp ihq => simp only [acceptsEmpty, language, nil_mem_mul, ihp, ihq, Bool.and_eq_true]
  | either p q ihp ihq =>
    simp only [acceptsEmpty, language, Language.mem_add, ihp, ihq, Bool.or_eq_true]
  | many p => simp [acceptsEmpty, language, Language.nil_mem_kstar]

theorem language_andThen (p q : Pattern) : (p.andThen q).language = p.language * q.language := by
  unfold andThen
  split
  · exact (zero_mul _).symm
  · exact (one_mul _).symm
  · rfl

theorem language_orElse (p q : Pattern) : (p.orElse q).language = p.language + q.language := by
  unfold orElse
  split
  · exact (zero_add _).symm
  · exact (add_zero _).symm
  · rfl

theorem mem_language_after {c : Char} {p : Pattern} {t : Text} :
    t ∈ (p.after c).language ↔ c :: t ∈ p.language := by
  induction p generalizing t with
  | never => simp [after, language]
  | empty => simp [after, language]
  | one k =>
    rw [after, mem_language_one]
    by_cases hc : k.takes c = true
    · rw [if_pos hc, language, Language.mem_one]
      exact ⟨fun h => ⟨c, hc, by rw [h]⟩, fun ⟨_, _, h⟩ => (List.cons.inj h).2⟩
    · rw [if_neg hc, language]
      refine iff_of_false (Language.notMem_zero t) ?_
      rintro ⟨d, hd, h⟩
      rw [(List.cons.inj h).1] at hc
      exact hc hd
  | seq p q ihp ihq =>
    rw [after, language_orElse, language_andThen, Language.mem_add, Language.mem_mul, language,
      cons_mem_mul, ← acceptsEmpty_iff]
    simp only [ihp]
    refine or_congr_right ?_
    by_cases hp : p.acceptsEmpty = true
    · simp only [hp, if_true, true_and, ihq]
    · simp [hp, language]
  | either p q ihp ihq =>
    rw [after, language_orElse, Language.mem_add, ihp, ihq, language, Language.mem_add]
  | many p ih =>
    rw [after, language_andThen, Language.mem_mul, language, cons_mem_kstar]
    simp only [ih]

/-- A pattern accepts exactly the texts of its language. -/
theorem accepts_iff {p : Pattern} {t : Text} : p.accepts t = true ↔ t ∈ p.language := by
  induction t generalizing p with
  | nil => exact acceptsEmpty_iff p
  | cons c t ih => rw [← mem_language_after, ← ih, accepts, List.foldl_cons, accepts]

theorem mem_language_char {c : Char} {t : Text} : t ∈ (char c).language ↔ t = [c] := by
  have hone (d : Char) : (CharClass.mk [.only c] false).takes d = true ↔ d = c := by
    rw [Text.CodeRange.only, CharClass.takes_between_iff, ← Char.toNat_inj]
    omega
  simp [char, oneOf, mem_language_one, hone]

theorem mem_language_seq_one {k : CharClass} {p : Pattern} {t : Text} :
    t ∈ (seq (one k) p).language ↔ ∃ c, k.takes c = true ∧ ∃ u ∈ p.language, t = c :: u := by
  rw [language, Language.mem_mul]
  simp only [mem_language_one]
  constructor
  · rintro ⟨_, ⟨c, hc, rfl⟩, u, hu, rfl⟩
    exact ⟨c, hc, u, hu, rfl⟩
  · rintro ⟨c, hc, u, hu, rfl⟩
    exact ⟨[c], ⟨c, hc, rfl⟩, u, hu, rfl⟩

theorem mem_language_seq_char {c : Char} {p : Pattern} {t : Text} :
    t ∈ (seq (char c) p).language ↔ ∃ u ∈ p.language, t = c :: u := by
  rw [language, Language.mem_mul]
  simp only [mem_language_char, exists_eq_left, List.singleton_append, eq_comm (b := t)]

theorem mem_language_seq_optional {p q : Pattern} {t : Text} :
    t ∈ (seq (optional p) q).language ↔ t ∈ (seq p q).language ∨ t ∈ q.language := by
  rw [show (seq (optional p) q).language = (p.language + 1) * q.language from rfl, add_mul, one_mul,
    Language.mem_add, language]

theorem mem_language_many_one {k : CharClass} {t : Text} :
    t ∈ (many (one k)).language ↔ ∀ c ∈ t, k.takes c = true := by
  induction t with
  | nil => exact iff_of_true (Language.nil_mem_kstar _) (by simp)
  | cons c t ih =>
    rw [language, cons_mem_kstar, List.forall_mem_cons, ← ih]
    simp only [mem_language_one]
    constructor
    · rintro ⟨a, ⟨d, hd, ha⟩, b, hb, rfl⟩
      obtain ⟨rfl, rfl⟩ := List.cons.inj ha
      exact ⟨hd, hb⟩
    · rintro ⟨hc, ht⟩
      exact ⟨[], ⟨c, hc, rfl⟩, t, ht, rfl⟩

theorem mem_language_oneOrMore_one {k : CharClass} {t : Text} :
    t ∈ (oneOrMore (one k)).language ↔ t ≠ [] ∧ ∀ c ∈ t, k.takes c = true := by
  rw [oneOrMore, mem_language_seq_one]
  simp only [mem_language_many_one]
  constructor
  · rintro ⟨c, hc, u, hu, rfl⟩
    exact ⟨by simp, List.forall_mem_cons.mpr ⟨hc, hu⟩⟩
  · rintro ⟨hne, ht⟩
    obtain ⟨c, u, rfl⟩ := List.exists_cons_of_ne_nil hne
    obtain ⟨hc, hu⟩ := List.forall_mem_cons.mp ht
    exact ⟨c, hc, u, hu, rfl⟩

/-- A pattern and then some more of it, each behind a mark, stand for joined pieces. -/
theorem mem_language_separated {p : Pattern} {mark : Char} {n : Nat} {t : Text} :
    t ∈ (seq p (times n (seq (char mark) p))).language ↔
      ∃ pieces : List Text, pieces.length = n + 1 ∧ (∀ piece ∈ pieces, piece ∈ p.language) ∧
        t = Text.join [mark] pieces := by
  induction n generalizing t with
  | zero =>
    rw [times, language, language, mul_one]
    constructor
    · intro ht
      exact ⟨[t], rfl, by simpa using ht, by simp [Text.join]⟩
    · rintro ⟨pieces, hlength, hpieces, rfl⟩
      obtain ⟨piece, rfl⟩ := List.length_eq_one_iff.mp hlength
      simpa [Text.join] using hpieces
  | succ n ih =>
    -- Behind the first piece and its mark stands the same pattern with one piece less.
    have hsplit : (seq p (times (n + 1) (seq (char mark) p))).language =
        p.language * ((char mark).language *
          (seq p (times n (seq (char mark) p))).language) := by
      simp only [times, language, mul_assoc]
    rw [hsplit, Language.mem_mul]
    simp only [Language.mem_mul, mem_language_char, ih]
    constructor
    · rintro ⟨first, hfirst, _, ⟨_, rfl, _, ⟨rest, hlength, hrest, rfl⟩, rfl⟩, rfl⟩
      refine ⟨first :: rest, by simp [hlength], List.forall_mem_cons.mpr ⟨hfirst, hrest⟩, ?_⟩
      obtain ⟨second, rest, rfl⟩ := List.exists_cons_of_length_eq_add_one hlength
      simp [Text.join]
    · rintro ⟨pieces, hlength, hpieces, rfl⟩
      obtain ⟨first, rest, rfl⟩ := List.exists_cons_of_length_eq_add_one hlength
      obtain ⟨hfirst, hrest⟩ := List.forall_mem_cons.mp hpieces
      have hlength : rest.length = n + 1 := by simpa using hlength
      refine ⟨first, hfirst, _, ⟨_, rfl, _, ⟨rest, hlength, hrest, rfl⟩, rfl⟩, ?_⟩
      obtain ⟨second, rest, rfl⟩ := List.exists_cons_of_length_eq_add_one hlength
      simp [Text.join]

end Pattern

end GatewayConfig
