import GatewayConfig.Command.Arguments
import GatewayConfig.Proofs.Text.Lines

/-! # The words of a call

A call is written down as groups of arguments: a flag by its word, a cluster of flags by their
letters, an option with its value in the same argument or in the next one, an operand. Here each
table of names is told by the words that it knows and the places where it knows them, and each
shape of argument by the text that has it.
-/

namespace GatewayConfig.Arguments

def Name.word : Name → Text
  | check => "check".toList
  | format => "fmt".toList
  | types => "types".toList
  | fields => "fields".toList

theorem Name.ofText?_eq_some_iff {t : Text} {name : Name} :
    ofText? t = some name ↔ t = name.word := by
  constructor
  · intro h
    rw [ofText?] at h
    repeat' split at h
    all_goals first | cases h; assumption | cases h
  · rintro rfl
    cases name <;> decide

def Flag.word : Flag → Text
  | verbose => "verbose".toList
  | help => "help".toList
  | version => "version".toList
  | denyWarnings => "deny-warnings".toList
  | stdout => "stdout".toList
  | compare => "check".toList
  | all => "all".toList

def Flag.letter? : Flag → Option Char
  | verbose => some 'v'
  | help => some 'h'
  | version => some 'V'
  | stdout => some 's'
  | all => some 'a'
  | denyWarnings | compare => none

/-- Where a flag is known: before the name of a command, or after the one that it belongs to. -/
def Flag.isKnown (level : Option Name) : Flag → Bool
  | verbose | help => true
  | version => level == none
  | denyWarnings => level == some .check
  | stdout | compare => level == some .format
  | all => level == some .fields

theorem Flag.word_proper (f : Flag) : '=' ∉ f.word ∧ f.word ≠ [] := by cases f <;> decide

theorem longFlag?_eq_some_iff {level : Option Name} {t : Text} {f : Flag} :
    longFlag? level t = some f ↔ t = f.word ∧ f.isKnown level = true := by
  constructor
  · intro h
    simp only [longFlag?, Bool.and_eq_true, decide_eq_true_eq] at h
    iterate 2
      split at h
      next ht => cases h; exact ⟨ht, rfl⟩
    iterate 5
      split at h
      next ht => cases h; exact ht
    cases h
  · rintro ⟨rfl, hknown⟩
    revert hknown
    rcases level with _ | (_ | _ | _ | _) <;> cases f <;> decide

theorem Flag.letter?_ne_hyphen (f : Flag) : f.letter? ≠ some '-' := by cases f <;> decide

theorem shortFlag?_eq_some_iff {level : Option Name} {c : Char} {f : Flag} :
    shortFlag? level c = some f ↔ f.letter? = some c ∧ f.isKnown level = true := by
  constructor
  · intro h
    simp only [shortFlag?, Bool.and_eq_true, decide_eq_true_eq] at h
    iterate 2
      split at h
      next hc => cases h; exact ⟨hc ▸ rfl, rfl⟩
    iterate 3
      split at h
      next hc => cases h; exact ⟨hc.1 ▸ rfl, hc.2⟩
    cases h
  · rintro ⟨hletter, hknown⟩
    revert hknown
    cases f <;> cases hletter <;> rcases level with _ | (_ | _ | _ | _) <;> decide

def Setting.word : Setting → Text
  | settings => "settings".toList
  | capabilities => "capabilities".toList
  | output => "output".toList

theorem Setting.word_proper (s : Setting) : '=' ∉ s.word ∧ s.word ≠ [] := by cases s <;> decide

theorem setting?_eq_some_iff {t : Text} {s : Setting} : setting? t = some s ↔ t = s.word := by
  constructor
  · intro h
    rw [setting?] at h
    repeat' split at h
    all_goals first | cases h; assumption | cases h
  · rintro rfl
    cases s <;> decide

theorem longFlag?_word (level : Option Name) (s : Setting) : longFlag? level s.word = none := by
  rw [Option.eq_none_iff_forall_ne_some]
  intro f h
  have hword := (longFlag?_eq_some_iff.mp h).1
  cases s <;> cases f <;> exact absurd hword (by decide)

/-- An argument that is not taken for an option. -/
def IsPlain (t : Text) : Prop := t = ['-'] ∨ t.head? ≠ some '-'

instance : DecidablePred IsPlain := fun _ => inferInstanceAs (Decidable (_ ∨ _))

namespace Shape

def word : Shape → Text
  | terminator => ['-', '-']
  | long name none => '-' :: '-' :: name
  | long name (some value) => '-' :: '-' :: (name ++ '=' :: value)
  | cluster letters => '-' :: letters
  | operand t => t

def IsProper : Shape → Prop
  | terminator => True
  | long name value => '=' ∉ name ∧ (value = none → name ≠ [])
  | cluster letters => letters ≠ [] ∧ letters.head? ≠ some '-'
  | operand t => IsPlain t

theorem proper_ofText (w : Text) : w = (ofText w).word ∧ (ofText w).IsProper := by
  fun_cases ofText w with
  | case1 => exact ⟨rfl, trivial⟩
  | case2 rest hrest name c value hspan =>
    obtain ⟨rfl, rfl, hname⟩ := Text.span_ne_eq_cons_iff.mp hspan
    exact ⟨rfl, hname, nofun⟩
  | case3 rest hrest name hspan =>
    obtain ⟨rfl, hname⟩ := Text.span_ne_eq_nil_iff.mp hspan
    exact ⟨rfl, hname, fun _ => hrest⟩
  | case4 c rest hterminator hlong => exact ⟨rfl, by simp, by simpa using hlong⟩
  | case5 _ _ _ hcluster =>
    -- A hyphen with another character behind it has the shape of an option.
    refine ⟨rfl, or_iff_not_imp_right.mpr fun hhead => ?_⟩
    obtain ⟨rest, rfl⟩ := List.head?_eq_some_iff.mp (not_not.mp hhead)
    cases rest with
    | nil => rfl
    | cons c rest => exact (hcluster c rest rfl).elim

theorem ofText_word {shape : Shape} (hproper : shape.IsProper) : ofText shape.word = shape := by
  match shape, hproper with
  | terminator, _ => rfl
  | long name none, ⟨hname, hne⟩ =>
    rw [word, ofText, Text.span_ne_eq_nil_iff.mpr ⟨rfl, hname⟩]
    exact hne rfl
  | long name (some value), ⟨hname, _⟩ =>
    rw [word, ofText, Text.span_ne_eq_cons_iff.mpr ⟨rfl, rfl, hname⟩]
    simp
  | cluster letters, ⟨hne, hhead⟩ =>
    obtain ⟨c, rest, rfl⟩ := List.exists_cons_of_ne_nil hne
    have hc : c ≠ '-' := by simpa using hhead
    rw [word, ofText]
    · exact fun h => absurd h hc
    · exact hc
  | operand t, .inl ht =>
    rw [word, ht]
    rfl
  | operand t, .inr hhead =>
    rw [word, ofText]
    · rintro rfl
      exact hhead rfl
    · rintro rest rfl
      exact hhead rfl
    · rintro c rest rfl
      exact hhead rfl

theorem ofText_eq_iff {w : Text} {shape : Shape} :
    ofText w = shape ↔ w = shape.word ∧ shape.IsProper := by
  constructor
  · rintro rfl
    exact proper_ofText w
  · rintro ⟨rfl, hproper⟩
    exact ofText_word hproper

end Shape

/-- A group of arguments that is read at once. -/
inductive Piece
  | flag (f : Flag)
  | cluster (flags : List Flag)
  /-- An option with its value after an equals sign. -/
  | joined (s : Setting) (value : Text)
  /-- An option with its value in the next argument. -/
  | apart (s : Setting) (value : Text)
  | operand (value : Text)
  deriving DecidableEq, Repr

namespace Piece

def words : Piece → List Text
  | flag f => ['-' :: '-' :: f.word]
  | cluster flags => ['-' :: flags.filterMap Flag.letter?]
  | joined s value => ['-' :: '-' :: (s.word ++ '=' :: value)]
  | apart s value => ['-' :: '-' :: s.word, value]
  | operand value => [value]

/-- The arguments of the group are understood as this group on the level. -/
def Stands (level : Option Name) : Piece → Prop
  | flag f => f.isKnown level = true
  | cluster flags => flags ≠ [] ∧ ∀ f ∈ flags, f.letter?.isSome = true ∧ f.isKnown level = true
  | joined _ _ => True
  | apart _ value => IsPlain value
  | operand value => IsPlain value ∧ level ≠ none

instance (level : Option Name) : DecidablePred (Stands level)
  | flag _ => inferInstanceAs (Decidable (_ = _))
  | cluster _ => inferInstanceAs (Decidable (_ ∧ _))
  | joined _ _ => inferInstanceAs (Decidable True)
  | apart _ _ => inferInstanceAs (Decidable (IsPlain _))
  | operand _ => inferInstanceAs (Decidable (_ ∧ _))

def flags : Piece → List Flag
  | flag f => [f]
  | cluster flags => flags
  | _ => []

def assignments : Piece → List (Setting × Text)
  | joined s value | apart s value => [(s, value)]
  | _ => []

def operands : Piece → List Text
  | operand value => [value]
  | _ => []

end Piece

end GatewayConfig.Arguments
