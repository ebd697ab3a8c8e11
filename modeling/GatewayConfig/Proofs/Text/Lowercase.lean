import GatewayConfig.Text.Lowercase
import Mathlib.Tactic.Common

/-! # Laws of lowercasing

Lowercasing is idempotent, and it makes neither blanks nor brackets out of other characters. Both
follow from one fact about the table: what a run produces is covered by no run and keeps clear of
a few ranges of code points.
-/

namespace GatewayConfig.Text

def CaseRun.lower (r : CaseRun) (n : Nat) : Nat := ((n : Int) + r.shift).toNat

/-- No code point that `r` produces is covered by `s`. -/
def CaseRun.settles (r s : CaseRun) : Bool :=
  r.lower r.last < s.first || s.last < r.lower r.first ||
    ((r.step == 2 || r.first == r.last) && s.step == 2 && (r.lower r.first + s.first) % 2 == 1)

/-- No code point that `r` produces lies in the range. -/
def CaseRun.clears (r : CaseRun) (range : CodeRange) : Bool :=
  r.lower r.last < range.first || range.last < r.lower r.first

/-- Code points that no run produces: all up to the small letters with the brackets among them,
the blanks beyond, the dotted capital I, and the surrogates. -/
def sparedRanges : List CodeRange := [
    ⟨0, 0x60⟩, ⟨0x85, 0x85⟩, ⟨0xA0, 0xA0⟩, ⟨0x130, 0x130⟩, ⟨0x1680, 0x1680⟩, ⟨0x2000, 0x200A⟩,
    ⟨0x2028, 0x2029⟩, ⟨0x202F, 0x202F⟩, ⟨0x205F, 0x205F⟩, ⟨0x3000, 0x3000⟩, ⟨0xD800, 0xDFFF⟩]

theorem lowercaseRuns_settle :
    (lowercaseRuns.all fun r => lowercaseRuns.all r.settles) = true := by
  decide +kernel

theorem lowercaseRuns_clear : (lowercaseRuns.all fun r => sparedRanges.all r.clears) = true := by
  decide +kernel

theorem lowercaseRuns_bounded :
    (lowercaseRuns.all fun r => r.lower r.last < 0x110000) = true := by
  decide +kernel

theorem CaseRun.covers_iff {r : CaseRun} {n : Nat} :
    r.covers n = true ↔ r.first ≤ n ∧ n ≤ r.last ∧ (n - r.first) % r.step = 0 := by
  simp [covers, and_assoc]

theorem CaseRun.not_covers_lower {r s : CaseRun} {n : Nat} (hn : r.covers n = true)
    (hpos : 0 < r.lower r.first) (h : r.settles s = true) : s.covers (r.lower n) = false := by
  obtain ⟨hfirst, hlast, hstep⟩ := covers_iff.mp hn
  rw [← Bool.not_eq_true, covers_iff]
  rintro ⟨hs, hs', hmod⟩
  simp only [settles, Bool.or_eq_true, Bool.and_eq_true, decide_eq_true_eq, beq_iff_eq] at h
  simp only [lower] at hpos hs hs' hmod h
  rcases h with (h | h) | ⟨⟨h | h, h2⟩, hodd⟩
  · omega
  · omega
  · rw [h] at hstep
    rw [h2] at hmod
    omega
  · rw [h2] at hmod
    omega

theorem CaseRun.lower_outside {r : CaseRun} {n : Nat} (hn : r.covers n = true) {range : CodeRange}
    (h : r.clears range = true) : r.lower n < range.first ∨ range.last < r.lower n := by
  obtain ⟨hfirst, hlast, -⟩ := covers_iff.mp hn
  simp only [clears, Bool.or_eq_true, decide_eq_true_eq] at h
  simp only [lower] at h ⊢
  omega

/-- A character that lowercasing leaves alone wherever it stands. -/
structure FixedChar (c : Char) : Prop where
  lower : lowerChar c = [c]
  ne_sigma : c ≠ 'Σ'

structure LoweredChar (c : Char) : Prop extends FixedChar c where
  not_blank : isBlank c = false
  ne_open : c ≠ '['
  ne_close : c ≠ ']'

theorem fixedChar_of_uncovered {c : Char} (hdot : c ≠ '\u0130')
    (h : ∀ r ∈ lowercaseRuns, r.covers c.toNat = false) : FixedChar c := by
  have hcode : lowerCode c.toNat = c.toNat := by
    have hnone : lowercaseRuns.find? (·.covers c.toNat) = none := by
      simpa using h
    simp [lowerCode, hnone]
  refine ⟨by simp [lowerChar, hdot, hcode], ?_⟩
  rintro rfl
  exact absurd (h ⟨0x3A3, 0x3AB, 1, 32⟩ (by decide)) (by decide)

theorem toNat_ofNat_of_scalar {n : Nat} (hscalar : n < 0xD800 ∨ 0xDFFF < n)
    (hmax : n < 0x110000) : (Char.ofNat n).toNat = n := by
  have hvalid : n.isValidChar := by
    simp only [Nat.isValidChar]
    omega
  rw [Char.ofNat, dif_pos hvalid]
  rfl

theorem loweredChar_of_code {n : Nat} (hmax : n < 0x110000)
    (hspared : ∀ range ∈ sparedRanges, n < range.first ∨ range.last < n)
    (h : ∀ r ∈ lowercaseRuns, r.covers n = false) : LoweredChar (Char.ofNat n) := by
  simp only [sparedRanges, List.forall_mem_cons, List.not_mem_nil, false_implies, implies_true,
    and_true] at hspared
  have hn : (Char.ofNat n).toNat = n := toNat_ofNat_of_scalar (by omega) hmax
  have hne {c : Char} (hc : c.toNat ≠ n) : Char.ofNat n ≠ c := fun he => hc (he ▸ hn)
  have hfixed : FixedChar (Char.ofNat n) :=
    fixedChar_of_uncovered (hne (by simp; omega)) (by rwa [hn])
  refine ⟨hfixed, ?_, hne (by simp; omega), hne (by simp; omega)⟩
  simp only [isBlank, hn]
  simp
  omega

/-- Every code point that the table changes becomes one that it does not change. -/
theorem loweredChar_of_covered {r : CaseRun} (hr : r ∈ lowercaseRuns) {n : Nat}
    (hn : r.covers n = true) : LoweredChar (Char.ofNat (r.lower n)) := by
  have hclear := List.all_eq_true.mp (List.all_eq_true.mp lowercaseRuns_clear r hr)
  have hsettle := List.all_eq_true.mp (List.all_eq_true.mp lowercaseRuns_settle r hr)
  have hbound := of_decide_eq_true (List.all_eq_true.mp lowercaseRuns_bounded r hr)
  have hspared : ∀ range ∈ sparedRanges, r.lower n < range.first ∨ range.last < r.lower n :=
    fun range hrange => CaseRun.lower_outside hn (hclear range hrange)
  obtain ⟨hfirst, hlast, -⟩ := CaseRun.covers_iff.mp hn
  have hpos : 0 < r.lower r.first := by
    have hself : r.covers r.first = true :=
      CaseRun.covers_iff.mpr ⟨Nat.le_refl _, Nat.le_trans hfirst hlast, by simp⟩
    have hout := CaseRun.lower_outside hself (hclear ⟨0, 0x60⟩ (by decide))
    simp only at hout
    omega
  apply loweredChar_of_code _ hspared
  · exact fun s hs => CaseRun.not_covers_lower hn hpos (hsettle s hs)
  · simp only [CaseRun.lower] at hbound ⊢
    omega

/-- The characters written by the two rules that are not in the table. -/
theorem loweredChar_of_special {c : Char} (hc : c ∈ ['i', '\u0307', 'σ', 'ς']) :
    LoweredChar c := by
  have huncovered : (['i', '\u0307', 'σ', 'ς'].all fun c =>
      lowercaseRuns.all (!·.covers c.toNat)) = true := by
    decide +kernel
  have hplain : (['i', '\u0307', 'σ', 'ς'].all fun c =>
      c != '\u0130' && !isBlank c && c != '[' && c != ']') = true := by
    decide
  have hruns := List.all_eq_true.mp (List.all_eq_true.mp huncovered c hc)
  have hc' := List.all_eq_true.mp hplain c hc
  simp only [Bool.and_eq_true, bne_iff_ne, Bool.not_eq_true'] at hc'
  obtain ⟨⟨⟨hdot, hblank⟩, hopen⟩, hclose⟩ := hc'
  exact ⟨fixedChar_of_uncovered hdot fun r hr => by simpa using hruns r hr, hblank, hopen, hclose⟩

/-- Lowercasing keeps a character for good, or puts lowered characters in its place. -/
theorem lowerChar_cases {c : Char} (hc : c ≠ 'Σ') :
    (lowerChar c = [c] ∧ FixedChar c) ∨
      lowerChar c ≠ [] ∧ ∀ d ∈ lowerChar c, LoweredChar d := by
  by_cases hdot : c = '\u0130'
  · subst hdot
    refine Or.inr ⟨by decide, ?_⟩
    intro d hd
    apply loweredChar_of_special
    simp only [lowerChar, if_true, List.mem_cons, List.not_mem_nil, or_false] at hd ⊢
    rcases hd with rfl | rfl <;> simp
  · cases hfind : lowercaseRuns.find? (·.covers c.toNat) with
    | none =>
      have hfixed : FixedChar c := fixedChar_of_uncovered hdot (by simpa using hfind)
      exact Or.inl ⟨hfixed.lower, hfixed⟩
    | some r =>
      have hlower : lowerChar c = [Char.ofNat (r.lower c.toNat)] := by
        simp [lowerChar, hdot, lowerCode, hfind, CaseRun.lower]
      refine Or.inr ⟨by simp [hlower], ?_⟩
      intro d hd
      rw [hlower, List.mem_singleton] at hd
      rw [hd]
      have hcovers : r.covers c.toNat = true := by
        simpa using List.find?_some hfind
      exact loweredChar_of_covered (List.mem_of_find?_eq_some hfind) hcovers

theorem loweredChar_lowerSigma (before after : Text) : LoweredChar (lowerSigma before after) := by
  unfold lowerSigma
  split <;> exact loweredChar_of_special (by simp)

theorem lowercaseAfter_cons (before : Text) (c : Char) (t : Text) :
    ∃ piece, lowercaseAfter before (c :: t) = piece ++ lowercaseAfter (c :: before) t ∧
      ((piece = [c] ∧ FixedChar c) ∨ piece ≠ [] ∧ ∀ d ∈ piece, LoweredChar d) := by
  refine ⟨_, rfl, ?_⟩
  split
  next => exact Or.inr ⟨by simp, by simpa using loweredChar_lowerSigma before t⟩
  next hc => exact lowerChar_cases hc

theorem mem_lowercaseAfter {before t : Text} {d : Char} (hd : d ∈ lowercaseAfter before t) :
    LoweredChar d ∨ d ∈ t ∧ FixedChar d := by
  induction t generalizing before with
  | nil => simp [lowercaseAfter] at hd
  | cons c t ih =>
    obtain ⟨piece, hpiece, hcases⟩ := lowercaseAfter_cons before c t
    rw [hpiece, List.mem_append] at hd
    rcases hd with hd | hd
    · rcases hcases with ⟨rfl, hfixed⟩ | ⟨-, hlowered⟩
      · rw [List.mem_singleton] at hd
        subst hd
        exact Or.inr ⟨List.mem_cons_self, hfixed⟩
      · exact Or.inl (hlowered d hd)
    · exact (ih hd).imp_right (And.imp_left (List.mem_cons_of_mem c))

theorem lowercaseAfter_of_fixed {t : Text} (ht : ∀ c ∈ t, FixedChar c) (before : Text) :
    lowercaseAfter before t = t := by
  induction t generalizing before with
  | nil => rfl
  | cons c t ih =>
    have hc := ht c List.mem_cons_self
    rw [lowercaseAfter, if_neg hc.ne_sigma, hc.lower,
      ih fun d hd => ht d (List.mem_cons_of_mem c hd)]
    rfl

/-- Lowercasing twice is lowercasing once. -/
@[simp] theorem lowercase_lowercase (t : Text) : lowercase (lowercase t) = lowercase t := by
  apply lowercaseAfter_of_fixed
  intro c hc
  rcases mem_lowercaseAfter hc with h | ⟨-, h⟩
  · exact h.toFixedChar
  · exact h

theorem mem_lowercase {t : Text} {d : Char} (hd : d ∈ lowercase t) : LoweredChar d ∨ d ∈ t :=
  (mem_lowercaseAfter hd).imp_right And.left

theorem lowercaseAfter_eq_nil_iff {before t : Text} : lowercaseAfter before t = [] ↔ t = [] := by
  cases t with
  | nil => simp [lowercaseAfter]
  | cons c t =>
    obtain ⟨piece, hpiece, hcases⟩ := lowercaseAfter_cons before c t
    rcases hcases with ⟨rfl, -⟩ | ⟨hne, -⟩
    · simp [hpiece]
    · simp [hpiece, hne]

theorem lowercase_eq_nil_iff {t : Text} : lowercase t = [] ↔ t = [] := lowercaseAfter_eq_nil_iff

theorem head?_lowercase {t : Text} {d : Char} (hd : (lowercase t).head? = some d) :
    LoweredChar d ∨ t.head? = some d := by
  cases t with
  | nil => simp [lowercase, lowercaseAfter] at hd
  | cons c t =>
    obtain ⟨piece, hpiece, hcases⟩ := lowercaseAfter_cons [] c t
    rw [lowercase, hpiece] at hd
    rcases hcases with ⟨rfl, -⟩ | ⟨hne, hlowered⟩
    · exact Or.inr hd
    · obtain ⟨e, piece, rfl⟩ := List.exists_cons_of_ne_nil hne
      simp only [List.cons_append, List.head?_cons, Option.some.injEq] at hd
      exact Or.inl (hlowered d (by simp [hd]))

theorem getLast?_lowercaseAfter {before t : Text} {d : Char}
    (hd : (lowercaseAfter before t).getLast? = some d) :
    LoweredChar d ∨ t.getLast? = some d := by
  induction t generalizing before with
  | nil => simp [lowercaseAfter] at hd
  | cons c t ih =>
    obtain ⟨piece, hpiece, hcases⟩ := lowercaseAfter_cons before c t
    rw [hpiece] at hd
    by_cases ht : t = []
    · subst ht
      simp only [lowercaseAfter, List.append_nil] at hd
      rcases hcases with ⟨rfl, -⟩ | ⟨-, hlowered⟩
      · exact Or.inr hd
      · exact Or.inl (hlowered d (List.mem_of_getLast? hd))
    · have hne : lowercaseAfter (c :: before) t ≠ [] := fun h => ht (lowercaseAfter_eq_nil_iff.mp h)
      have hlast : (lowercaseAfter (c :: before) t).getLast? = some d := by
        cases h : (lowercaseAfter (c :: before) t).getLast? with
        | none => exact absurd (List.getLast?_eq_none_iff.mp h) hne
        | some e => simpa [List.getLast?_append, h] using hd
      obtain ⟨e, u, rfl⟩ := List.exists_cons_of_ne_nil ht
      rw [List.getLast?_cons_cons]
      exact ih hlast

end GatewayConfig.Text
