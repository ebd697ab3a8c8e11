import GatewayConfig.Proofs.InterfaceBlock
import GatewayConfig.Proofs.Text.Pattern
import GatewayConfig.Validation.Validate

/-! # The language of hosts

What the check of a host accepts, in terms of characters. The pattern for names disregards case,
which lets two letters beyond ASCII in, and it takes every text of digits and points, so the
pattern that keeps octets below 256 has no effect.
-/

namespace GatewayConfig.Address
open Text

def IsNameChar (c : Char) : Prop := c.isAlphanum = true ∨ c = '_' ∨ c = '.' ∨ c = '-'

/-- A host in ASCII: one of the two wildcards that are no names, a name or dotted address, or an
address in brackets. -/
def IsAsciiHost (host : Text) : Prop :=
  host = "*".toList ∨ host = "::".toList ∨ (host ≠ [] ∧ ∀ c ∈ host, IsNameChar c) ∨
    ∃ inner, inner ≠ [] ∧ (∀ c ∈ inner, isHexDigit c = true ∨ c = ':') ∧
      host = "[".toList ++ inner ++ "]".toList

/-- A name in which a long s may stand for an s, and a Kelvin sign for a k. -/
def IsNameUpToCase (host : Text) : Prop :=
  host ≠ [] ∧ ∀ c ∈ host, IsNameChar c ∨ c = 'ſ' ∨ c = '\u212A'

def IsDigitGroup (g : Text) : Prop := g ≠ [] ∧ ∀ c ∈ g, c.isDigit = true

instance : DecidablePred IsDigitGroup := fun g =>
  decidable_of_iff (g ≠ [] ∧ g.all Char.isDigit = true) (by rw [List.all_eq_true, IsDigitGroup])

/-- A group that is written as an octet: up to 255, and without zeros before two more digits. -/
def IsOctet (g : Text) : Prop :=
  natOfDigits g ≤ 255 ∧ (g.length ≤ 2 ∨ g.length = 3 ∧ g.head? ≠ some '0')

theorem isDigit_iff {c : Char} : c.isDigit = true ↔ 0x30 ≤ c.toNat ∧ c.toNat ≤ 0x39 :=
  Char.isDigit_iff_toNat

theorem isAlphanum_iff {c : Char} : c.isAlphanum = true ↔ (0x41 ≤ c.toNat ∧ c.toNat ≤ 0x5A ∨
    0x61 ≤ c.toNat ∧ c.toNat ≤ 0x7A) ∨ 0x30 ≤ c.toNat ∧ c.toNat ≤ 0x39 := by
  have hupper : c.isUpper = true ↔ 0x41 ≤ c.toNat ∧ c.toNat ≤ 0x5A := decide_eq_true_iff
  have hlower : c.isLower = true ↔ 0x61 ≤ c.toNat ∧ c.toNat ≤ 0x7A :=
    Bool.and_eq_true_iff.trans (and_congr decide_eq_true_iff decide_eq_true_iff)
  rw [← hupper, ← hlower, ← isDigit_iff]
  exact Bool.or_eq_true_iff.trans (or_congr_left Bool.or_eq_true_iff)

theorem isNameChar_iff {c : Char} : IsNameChar c ↔
    0x41 ≤ c.toNat ∧ c.toNat ≤ 0x5A ∨ 0x61 ≤ c.toNat ∧ c.toNat ≤ 0x7A ∨
      0x30 ≤ c.toNat ∧ c.toNat ≤ 0x39 ∨ c.toNat = 0x5F ∨ c.toNat = 0x2E ∨ c.toNat = 0x2D := by
  rw [IsNameChar, isAlphanum_iff, ← Char.toNat_inj, ← Char.toNat_inj, ← Char.toNat_inj, or_assoc,
    or_assoc]
  exact Iff.rfl

theorem isHexDigit_iff {c : Char} : isHexDigit c = true ↔
    0x30 ≤ c.toNat ∧ c.toNat ≤ 0x39 ∨ 0x61 ≤ c.toNat ∧ c.toNat ≤ 0x66 ∨
      0x41 ≤ c.toNat ∧ c.toNat ≤ 0x46 := by
  simp only [isHexDigit, Char.isDigit, Bool.or_eq_true, Bool.and_eq_true, decide_eq_true_eq,
    Char.le_def, or_assoc]
  exact Iff.rfl

theorem takes_name_iff {c : Char} : (CharClass.mk nameRanges true).takes c = true ↔
    IsNameChar c ∨ c = 'ſ' ∨ c = '\u212A' := by
  have hascii : (CharClass.mk nameRanges false).takes c.toLower = true ↔ IsNameChar c := by
    simp only [CharClass.takes_iff, nameRanges, CodeRange.only, CodeRange.between, List.mem_cons,
      List.not_mem_nil, or_false, exists_eq_or_imp, exists_eq_left, toNat_toLower, isNameChar_iff,
      Char.reduceToNat]
    split <;> omega
  have hs : (CharClass.mk nameRanges false).takes 's' = true := rfl
  have hk : (CharClass.mk nameRanges false).takes 'k' = true := rfl
  rw [CharClass.takes_anyCase_iff (by decide), hascii, hs, hk]
  simp

theorem takes_bracketed_iff {c : Char} : (CharClass.mk bracketedRanges true).takes c = true ↔
    isHexDigit c = true ∨ c = ':' := by
  have hascii : (CharClass.mk bracketedRanges false).takes c.toLower = true ↔
      isHexDigit c = true ∨ c = ':' := by
    simp only [CharClass.takes_iff, bracketedRanges, CodeRange.only, CodeRange.between,
      List.mem_cons, List.not_mem_nil, or_false, exists_eq_or_imp, exists_eq_left, toNat_toLower,
      isHexDigit_iff, Char.reduceToNat, ← Char.toNat_inj]
    split <;> omega
  have hs : (CharClass.mk bracketedRanges false).takes 's' = false := rfl
  have hk : (CharClass.mk bracketedRanges false).takes 'k' = false := rfl
  rw [CharClass.takes_anyCase_iff (by decide), hascii, hs, hk]
  simp

theorem takes_bracket_iff {bracket c : Char} (h : bracket = '[' ∨ bracket = ']') :
    (CharClass.mk [.only bracket] true).takes c = true ↔ c = bracket := by
  have hascii : (CharClass.mk [.only bracket] false).takes c.toLower = true ↔ c = bracket := by
    rcases h with rfl | rfl <;>
    · simp only [CodeRange.only, CharClass.takes_between_iff, toNat_toLower, Char.reduceToNat,
        ← Char.toNat_inj]
      split <;> omega
  have hs : (CharClass.mk [.only bracket] false).takes 's' = false := by
    rcases h with rfl | rfl <;> rfl
  have hk : (CharClass.mk [.only bracket] false).takes 'k' = false := by
    rcases h with rfl | rfl <;> rfl
  have hcode : ∀ r ∈ [CodeRange.only bracket], r.last < 0x80 := by
    rcases h with rfl | rfl <;> decide
  rw [CharClass.takes_anyCase_iff hcode, hascii, hs, hk]
  simp

theorem accepts_hostPattern_iff {host : Text} : hostPattern.accepts host = true ↔
    IsNameUpToCase host ∨ ∃ inner, inner ≠ [] ∧ (∀ c ∈ inner, isHexDigit c = true ∨ c = ':') ∧
      host = "[".toList ++ inner ++ "]".toList := by
  have heq : hostPattern = .either (.oneOrMore (.one ⟨nameRanges, true⟩))
      (.seq (.one ⟨[.only '['], true⟩) (.seq (.oneOrMore (.one ⟨bracketedRanges, true⟩))
        (.one ⟨[.only ']'], true⟩))) := rfl
  rw [Pattern.accepts_iff, heq, Pattern.language, Language.mem_add,
    Pattern.mem_language_oneOrMore_one, Pattern.mem_language_seq_one, IsNameUpToCase]
  simp only [takes_name_iff, takes_bracket_iff (Or.inl rfl)]
  refine or_congr_right ?_
  rw [Pattern.language]
  simp only [Language.mem_mul, Pattern.mem_language_oneOrMore_one, Pattern.mem_language_one,
    takes_bracketed_iff, takes_bracket_iff (Or.inr rfl)]
  constructor
  · rintro ⟨_, rfl, _, ⟨inner, ⟨hne, hinner⟩, _, ⟨_, rfl, rfl⟩, rfl⟩, rfl⟩
    exact ⟨inner, hne, hinner, rfl⟩
  · rintro ⟨inner, hne, hinner, rfl⟩
    exact ⟨_, rfl, _, ⟨inner, ⟨hne, hinner⟩, _, ⟨_, rfl, rfl⟩, rfl⟩, rfl⟩

/-- The alternatives of the pattern for octets, by the digits that they ask for. -/
theorem mem_octetPattern_iff_digits {g : Text} : g ∈ octetPattern.language ↔
    (∃ c, (0x30 ≤ c.toNat ∧ c.toNat ≤ 0x35) ∧ g = ['2', '5', c]) ∨
    (∃ b c, (0x30 ≤ b.toNat ∧ b.toNat ≤ 0x34) ∧ c.isDigit = true ∧ g = ['2', b, c]) ∨
    (∃ b c, b.isDigit = true ∧ c.isDigit = true ∧ (g = ['1', b, c] ∨ g = [b, c])) ∨
    (∃ c, c.isDigit = true ∧ (g = ['1', c] ∨ g = [c])) := by
  have hdigit (c : Char) : (CharClass.mk [.between '0' '9'] false).takes c = true ↔
      c.isDigit = true := by
    rw [CharClass.takes_between_iff, Char.isDigit_iff_toNat]
  simp only [octetPattern, Pattern.oneOf, Pattern.mem_language_either,
    Pattern.mem_language_seq_char, Pattern.mem_language_seq_optional, Pattern.mem_language_seq_one,
    Pattern.mem_language_one, hdigit, CharClass.takes_between_iff, Char.reduceToNat]
  constructor
  · rintro (⟨_, ⟨_, ⟨c, hc, rfl⟩, rfl⟩, rfl⟩ | ⟨_, ⟨b, hb, _, ⟨c, hc, rfl⟩, rfl⟩, rfl⟩ |
      ⟨_, ⟨b, hb, _, ⟨c, hc, rfl⟩, rfl⟩ | ⟨c, hc, rfl⟩, rfl⟩ | ⟨b, hb, _, ⟨c, hc, rfl⟩, rfl⟩ |
      ⟨c, hc, rfl⟩)
    · exact .inl ⟨c, hc, rfl⟩
    · exact .inr (.inl ⟨b, c, hb, hc, rfl⟩)
    · exact .inr (.inr (.inl ⟨b, c, hb, hc, .inl rfl⟩))
    · exact .inr (.inr (.inr ⟨c, hc, .inl rfl⟩))
    · exact .inr (.inr (.inl ⟨b, c, hb, hc, .inr rfl⟩))
    · exact .inr (.inr (.inr ⟨c, hc, .inr rfl⟩))
  · rintro (⟨c, hc, rfl⟩ | ⟨b, c, hb, hc, rfl⟩ | ⟨b, c, hb, hc, rfl | rfl⟩ | ⟨c, hc, rfl | rfl⟩)
    · exact .inl ⟨_, ⟨_, ⟨c, hc, rfl⟩, rfl⟩, rfl⟩
    · exact .inr (.inl ⟨_, ⟨b, hb, _, ⟨c, hc, rfl⟩, rfl⟩, rfl⟩)
    · exact .inr (.inr (.inl ⟨_, .inl ⟨b, hb, _, ⟨c, hc, rfl⟩, rfl⟩, rfl⟩))
    · exact .inr (.inr (.inr (.inl ⟨b, hb, _, ⟨c, hc, rfl⟩, rfl⟩)))
    · exact .inr (.inr (.inl ⟨_, .inr ⟨c, hc, rfl⟩, rfl⟩))
    · exact .inr (.inr (.inr (.inr ⟨c, hc, rfl⟩)))

theorem isOctet_of_digits {b c : Char} (hb : b.isDigit = true) (hc : c.isDigit = true) :
    IsOctet [c] ∧ IsOctet [b, c] := by
  rw [isDigit_iff] at hb hc
  have hone : natOfDigits [c] ≤ 255 := by
    simp only [natOfDigits, List.foldl_cons, List.foldl_nil, digitValue, Char.reduceToNat]
    omega
  have htwo : natOfDigits [b, c] ≤ 255 := by
    simp only [natOfDigits, List.foldl_cons, List.foldl_nil, digitValue, Char.reduceToNat]
    omega
  exact ⟨⟨hone, .inl (by simp)⟩, ⟨htwo, .inl (by simp)⟩⟩

theorem isOctet_three_iff {a b c : Char} (ha : a.isDigit = true) (hb : b.isDigit = true)
    (hc : c.isDigit = true) : IsOctet [a, b, c] ↔
      a = '1' ∨ a = '2' ∧ (b.toNat ≤ 0x34 ∨ b = '5' ∧ c.toNat ≤ 0x35) := by
  have hvalue : natOfDigits [a, b, c] =
      100 * digitValue a + 10 * digitValue b + digitValue c := by
    simp only [natOfDigits, List.foldl_cons, List.foldl_nil]
    omega
  rw [isDigit_iff] at ha hb hc
  rw [IsOctet, hvalue]
  simp only [digitValue, List.length_cons, List.length_nil, List.head?_cons, ne_eq,
    Option.some.injEq, ← Char.toNat_inj, Char.reduceToNat, true_and]
  omega

/-- The octets of the pattern in words. -/
theorem mem_octetPattern_iff {g : Text} :
    g ∈ octetPattern.language ↔ IsDigitGroup g ∧ IsOctet g := by
  rw [mem_octetPattern_iff_digits]
  constructor
  · have hone : '1'.isDigit = true := by decide
    have htwo : '2'.isDigit = true := by decide
    have hfive : '5'.isDigit = true := by decide
    have hdigit {c : Char} {last : Nat} (hlast : last ≤ 0x39)
        (hc : 0x30 ≤ c.toNat ∧ c.toNat ≤ last) : c.isDigit = true :=
      isDigit_iff.mpr ⟨hc.1, hc.2.trans hlast⟩
    rintro (⟨c, hc, rfl⟩ | ⟨b, c, hb, hc, rfl⟩ | ⟨b, c, hb, hc, rfl | rfl⟩ | ⟨c, hc, rfl | rfl⟩)
    · have hc' := hdigit (by decide) hc
      exact ⟨⟨by simp, by simp [htwo, hfive, hc']⟩,
        (isOctet_three_iff htwo hfive hc').mpr (.inr ⟨rfl, .inr ⟨rfl, hc.2⟩⟩)⟩
    · have hb' := hdigit (by decide) hb
      exact ⟨⟨by simp, by simp [htwo, hb', hc]⟩,
        (isOctet_three_iff htwo hb' hc).mpr (.inr ⟨rfl, .inl hb.2⟩)⟩
    · exact ⟨⟨by simp, by simp [hone, hb, hc]⟩, (isOctet_three_iff hone hb hc).mpr (.inl rfl)⟩
    · exact ⟨⟨by simp, by simp [hb, hc]⟩, (isOctet_of_digits hb hc).2⟩
    · exact ⟨⟨by simp, by simp [hone, hc]⟩, (isOctet_of_digits hone hc).2⟩
    · exact ⟨⟨by simp, by simp [hc]⟩, (isOctet_of_digits hc hc).1⟩
  · rintro ⟨⟨hne, hdigits⟩, hoctet⟩
    match g, hne with
    | [c], _ => exact .inr (.inr (.inr ⟨c, hdigits c (by simp), .inr rfl⟩))
    | [b, c], _ =>
      exact .inr (.inr (.inl ⟨b, c, hdigits b (by simp), hdigits c (by simp), .inr rfl⟩))
    | [a, b, c], _ =>
      have hb := hdigits b (by simp)
      have hc := hdigits c (by simp)
      rcases (isOctet_three_iff (hdigits a (by simp)) hb hc).mp hoctet with
        rfl | ⟨rfl, hb' | ⟨rfl, hc'⟩⟩
      · exact .inr (.inr (.inl ⟨b, c, hb, hc, .inl rfl⟩))
      · exact .inr (.inl ⟨b, c, ⟨(isDigit_iff.mp hb).1, hb'⟩, hc, rfl⟩)
      · exact .inl ⟨c, ⟨(isDigit_iff.mp hc).1, hc'⟩, rfl⟩
    | _ :: _ :: _ :: _ :: _, _ =>
      have hlength := hoctet.2
      simp at hlength

/-- The pattern for dotted addresses is four octets with points between them. -/
theorem mem_dottedPattern_iff {host : Text} : host ∈ dottedPattern.language ↔
    ∃ groups : List Text, groups.length = 4 ∧ (∀ g ∈ groups, IsDigitGroup g ∧ IsOctet g) ∧
      host = join ".".toList groups := by
  rw [dottedPattern, Pattern.mem_language_separated]
  simp only [mem_octetPattern_iff]
  exact Iff.rfl

theorem point_not_mem_of_isDigitGroup {g : Text} (h : IsDigitGroup g) : '.' ∉ g := by
  intro hmem
  exact absurd (h.2 '.' hmem) (by decide)

theorem join_point_injOn {groups others : List Text} (hne : groups ≠ []) (hne' : others ≠ [])
    (h : ∀ g ∈ groups, IsDigitGroup g) (h' : ∀ g ∈ others, IsDigitGroup g)
    (hjoin : join ".".toList groups = join ".".toList others) : groups = others := by
  have hsplit {l : List Text} (hl : l ≠ []) (hdigits : ∀ g ∈ l, IsDigitGroup g) :
      (join ".".toList l).splitOn '.' = l :=
    List.splitOn_intercalate '.' (fun g hg => point_not_mem_of_isDigitGroup (hdigits g hg)) hl
  rw [← hsplit hne h, hjoin, hsplit hne' h']

/-- On groups of digits the pattern asks that each of them is an octet. -/
theorem accepts_dottedPattern_iff {groups : List Text} (hlength : groups.length = 4)
    (h : ∀ g ∈ groups, IsDigitGroup g) :
    dottedPattern.accepts (join ".".toList groups) = true ↔ ∀ g ∈ groups, IsOctet g := by
  have hne {l : List Text} (hl : l.length = 4) : l ≠ [] := by
    rintro rfl
    cases hl
  rw [Pattern.accepts_iff, mem_dottedPattern_iff]
  constructor
  · rintro ⟨others, hothers, hoctets, hjoin⟩
    obtain rfl := join_point_injOn (hne hlength) (hne hothers) h (fun g hg => (hoctets g hg).1)
      hjoin
    exact fun g hg => (hoctets g hg).2
  · exact fun hoctets => ⟨groups, hlength, fun g hg => ⟨h g hg, hoctets g hg⟩, rfl⟩

/-- Groups of digits with points between them are a name, whatever numbers they denote. -/
theorem isNameChar_of_mem_join {groups : List Text} (h : ∀ g ∈ groups, IsDigitGroup g) {c : Char}
    (hc : c ∈ join ".".toList groups) : IsNameChar c := by
  rcases mem_of_mem_join hc with hc | ⟨g, hg, hc⟩
  · exact Or.inr (Or.inr (Or.inl (List.mem_singleton.mp hc)))
  · refine Or.inl ?_
    rw [Char.isAlphanum, (h g hg).2 c hc, Bool.or_true]

theorem join_point_ne_nil {groups : List Text} (hlength : groups.length = 4)
    (h : ∀ g ∈ groups, IsDigitGroup g) : join ".".toList groups ≠ [] := by
  obtain ⟨first, rest, rfl⟩ := List.exists_cons_of_length_eq_add_one hlength
  exact join_cons_ne_nil (h first List.mem_cons_self).1 _ _

/-- The pattern for dotted addresses accepts nothing that the one for hosts does not. -/
theorem accepts_hostPattern_of_dotted {host : Text} (h : dottedPattern.accepts host = true) :
    hostPattern.accepts host = true := by
  obtain ⟨groups, hlength, hgroups, rfl⟩ :=
    mem_dottedPattern_iff.mp (Pattern.accepts_iff.mp h)
  have hdigits : ∀ g ∈ groups, IsDigitGroup g := fun g hg => (hgroups g hg).1
  exact accepts_hostPattern_iff.mpr (Or.inl
    ⟨join_point_ne_nil hlength hdigits, fun c hc => Or.inl (isNameChar_of_mem_join hdigits hc)⟩)

theorem isHost_iff_accepts (value : Text) : isHost value = true ↔ trim value = "*".toList ∨
    trim value = "::".toList ∨ hostPattern.accepts (trim value) = true := by
  have hany : hostPattern.accepts "0.0.0.0".toList = true := by decide +kernel
  have hnil : hostPattern.accepts [] = false := rfl
  simp only [isHost, wildcards, Bool.and_eq_true, Bool.or_eq_true, Bool.not_eq_true',
    List.isEmpty_eq_false_iff, List.contains_iff_mem, List.mem_cons, List.not_mem_nil, or_false]
  constructor
  · rintro ⟨-, ((h | h | h) | h) | h⟩
    · exact Or.inl h
    · exact Or.inr (Or.inr (h ▸ hany))
    · exact Or.inr (Or.inl h)
    · exact Or.inr (Or.inr h)
    · exact Or.inr (Or.inr (accepts_hostPattern_of_dotted h))
  · rintro (h | h | h)
    · exact ⟨by simp [h], .inl (.inl (.inl h))⟩
    · exact ⟨by simp [h], .inl (.inl (.inr (.inr h)))⟩
    · refine ⟨?_, .inl (.inr h)⟩
      intro hempty
      rw [hempty, hnil] at h
      cases h

/-- The language of hosts: ASCII hosts, and names with the two letters that differ from ASCII
letters in case alone. -/
theorem isHost_iff (value : Text) :
    isHost value = true ↔ IsAsciiHost (trim value) ∨ IsNameUpToCase (trim value) := by
  rw [isHost_iff_accepts, accepts_hostPattern_iff, IsAsciiHost]
  constructor
  · rintro (h | h | h | h)
    · exact .inl (.inl h)
    · exact .inl (.inr (.inl h))
    · exact .inr h
    · exact .inl (.inr (.inr (.inr h)))
  · rintro ((h | h | ⟨hne, hname⟩ | h) | h)
    · exact .inl h
    · exact .inr (.inl h)
    · exact .inr (.inr (.inl ⟨hne, fun c hc => .inl (hname c hc)⟩))
    · exact .inr (.inr (.inr h))
    · exact .inr (.inr (.inl h))

theorem IsAsciiHost.toNat_lt {host : Text} (h : IsAsciiHost host) : ∀ c ∈ host, c.toNat < 0x80 := by
  have hname {c : Char} (hc : IsNameChar c) : c.toNat < 0x80 := by
    rw [isNameChar_iff] at hc
    omega
  have hhex {c : Char} (hc : isHexDigit c = true) : c.toNat < 0x80 := by
    rw [isHexDigit_iff] at hc
    omega
  intro c hc
  rcases h with rfl | rfl | ⟨-, hnames⟩ | ⟨inner, -, hinner, rfl⟩
  · rw [List.mem_singleton.mp hc]
    decide
  · obtain rfl : c = ':' := by simpa using hc
    decide
  · exact hname (hnames c hc)
  · simp only [List.mem_append] at hc
    rcases hc with (hc | hc) | hc
    · rw [List.mem_singleton.mp hc]
      decide
    · rcases hinner c hc with hc | rfl
      · exact hhex hc
      · decide
    · rw [List.mem_singleton.mp hc]
      decide

/-- A long s or a Kelvin sign alone passes for a host, and neither is one in ASCII. -/
theorem isHost_beyond_ascii :
    (isHost "ſ".toList = true ∧ ¬IsAsciiHost (trim "ſ".toList)) ∧
      isHost "\u212A".toList = true ∧ ¬IsAsciiHost (trim "\u212A".toList) := by
  refine ⟨⟨by decide +kernel, fun h => ?_⟩, by decide +kernel, fun h => ?_⟩
  · exact absurd (h.toNat_lt 'ſ' (by decide)) (by decide)
  · exact absurd (h.toNat_lt '\u212A' (by decide)) (by decide)

theorem isBlank_of_isNameChar {c : Char} (h : IsNameChar c) : isBlank c = false := by
  rw [isNameChar_iff] at h
  simp [isBlank]
  omega

/-- Four groups of digits are a host whatever they denote. The pattern that would keep them to
octets has no say. -/
theorem isHost_dotted {groups : List Text} (hlength : groups.length = 4)
    (h : ∀ g ∈ groups, IsDigitGroup g) : isHost (join ".".toList groups) = true ∧
      (dottedPattern.accepts (join ".".toList groups) = true ↔ ∀ g ∈ groups, IsOctet g) := by
  have hname : ∀ c ∈ join ".".toList groups, IsNameChar c := fun c => isNameChar_of_mem_join h
  refine ⟨?_, accepts_dottedPattern_iff hlength h⟩
  rw [isHost_iff, trim_of_not_blank fun c hc => isBlank_of_isNameChar (hname c hc)]
  exact Or.inr ⟨join_point_ne_nil hlength h, fun c hc => Or.inl (hname c hc)⟩

theorem isHost_dotted_long_groups :
    let groups := ["300".toList, "1".toList, "0007".toList, "255".toList]
    isHost (join ".".toList groups) = true ∧
      (dottedPattern.accepts (join ".".toList groups) = true ↔ ∀ g ∈ groups, IsOctet g) :=
  isHost_dotted (by decide) (by decide)

/-- A group beyond 255 is accepted. -/
theorem isHost_dotted_beyond_octets :
    let groups := ["256".toList, "0".toList, "0".toList, "1".toList]
    (∀ g ∈ groups, IsDigitGroup g) ∧ isHost (join ".".toList groups) = true ∧
      ¬∀ g ∈ groups, natOfDigits g ≤ 255 := by
  refine ⟨?_, ?_, ?_⟩ <;> decide +kernel

end GatewayConfig.Address
