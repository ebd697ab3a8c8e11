import GatewayConfig.Proofs.Command.LevelReading

/-! # What a call asks for

What is done follows from the groups that a call is spelled with: which flags stand behind the name
of the command, which operands, and which value an option has on the lower level or, failing that,
on the upper one. Main statement: `read_eq_ok_iff`.
-/

namespace GatewayConfig.Arguments

/-- A call as it is written down: the groups before and after the name of the command, and the
operands behind the mark that ends the options, if it is there. -/
structure Call where
  upper : List Piece
  name : Name
  lower : List Piece
  tail : Option (List Text) := none
  deriving DecidableEq, Repr

namespace Call

variable (c : Call) (env : Environment)

def words : List Text :=
  c.upper.flatMap Piece.words ++ c.name.word :: (c.lower.flatMap Piece.words ++ tailWords c.tail)

def following : List Piece := c.lower ++ (c.tail.getD []).map Piece.operand

def flags : List Flag := flagsOf c.following

def operands : List Text := operandsOf c.following

/-- The value of an option, for which the lower level is asked first. -/
def value? (s : Setting) : Option Text :=
  ((assignmentsOf c.following).lookup s).or ((assignmentsOf c.upper).lookup s)

def settingsPath : Text := (c.value? .settings).getD defaultSettingsPath

def capabilities : Option Text := (c.value? .capabilities).or env.capabilities

def output : Option OutputFormat := ((c.value? .output).or env.output).bind OutputFormat.ofName?

def invocation (action : Action) : Invocation where
  action
  settingsPath := c.settingsPath
  capabilities := c.capabilities env
  output := c.output env

/-- What is to be done, by the name of the command and the flags after it. -/
def Asks : Action → Prop
  | .check path deny =>
    c.name = .check ∧ c.operands = [path] ∧ (deny = true ↔ .denyWarnings ∈ c.flags)
  | .format path .file =>
    c.name = .format ∧ c.operands = [path] ∧ .stdout ∉ c.flags ∧ .compare ∉ c.flags
  | .format path .stdout =>
    c.name = .format ∧ c.operands = [path] ∧ .stdout ∈ c.flags ∧ .compare ∉ c.flags
  | .format path .comparison =>
    c.name = .format ∧ c.operands = [path] ∧ .stdout ∉ c.flags ∧ .compare ∈ c.flags
  | .types => c.name = .types ∧ c.operands = []
  | .fields type all => c.name = .fields ∧ c.operands = [type] ∧ (all = true ↔ .all ∈ c.flags)

theorem action?_eq_some_iff {action : Action} :
    action? c.name (levelOf c.following) = some action ↔ c.Asks action := by
  have hoperands : (levelOf c.following).operands = c.operands := rfl
  have hflags : (levelOf c.following).flags = c.flags := rfl
  constructor
  · intro h
    rw [action?.eq_def, hoperands, hflags] at h
    split at h
    next path hname hone => cases h; exact ⟨hname, hone, List.contains_iff_mem⟩
    next path hname hone =>
      split at h
      next => cases h
      next hs hc => cases h; exact ⟨hname, hone, by simpa using hs, by simpa using hc⟩
      next hs hc => cases h; exact ⟨hname, hone, by simpa using hs, by simpa using hc⟩
      next hs hc => cases h; exact ⟨hname, hone, by simpa using hs, by simpa using hc⟩
    next hname hnone => cases h; exact ⟨hname, hnone⟩
    next type hname hone => cases h; exact ⟨hname, hone, List.contains_iff_mem⟩
    next => cases h
  · intro h
    rw [action?.eq_def, hoperands, hflags]
    match action, h with
    | .check path deny, ⟨hname, hone, hdeny⟩ =>
      have hcontains : c.flags.contains .denyWarnings = deny :=
        Bool.eq_iff_iff.mpr (List.contains_iff_mem.trans hdeny.symm)
      rw [hname, hone, ← hcontains]
    | .format path .file, ⟨hname, hone, hs, hc⟩ => simp [hname, hone, hs, hc]
    | .format path .stdout, ⟨hname, hone, hs, hc⟩ => simp [hname, hone, hs, hc]
    | .format path .comparison, ⟨hname, hone, hs, hc⟩ => simp [hname, hone, hs, hc]
    | .types, ⟨hname, hnone⟩ => rw [hname, hnone]
    | .fields type all, ⟨hname, hone, hall⟩ =>
      have hcontains : c.flags.contains .all = all :=
        Bool.eq_iff_iff.mpr (List.contains_iff_mem.trans hall.symm)
      rw [hname, hone, ← hcontains]

end Call

/-- An option that the environment gives a value has a good one, or has one on the level too. -/
def Suited (env : Environment) (ps : List Piece) : Prop :=
  (∀ value ∈ env.capabilities, Setting.capabilities.Takes value ∨
    .capabilities ∈ (assignmentsOf ps).map Prod.fst) ∧
  ∀ value ∈ env.output, Setting.output.Takes value ∨ .output ∈ (assignmentsOf ps).map Prod.fst

instance (env : Environment) : DecidablePred (Suited env) :=
  fun _ => inferInstanceAs (Decidable (_ ∧ _))

/-- The arguments are those of the call, and they can be understood. -/
@[mk_iff]
structure Call.Spells (c : Call) (env : Environment) (args : List Text) : Prop where
  words_eq : c.words = args
  upper_stands : ∀ p ∈ c.upper, p.Stands none
  lower_stands : ∀ p ∈ c.lower, p.Stands (some c.name)
  upper_fits : Fits c.upper none
  lower_fits : Fits c.following (some c.name)
  upper_suited : Suited env c.upper
  lower_suited : Suited env c.following

instance (c : Call) (env : Environment) (args : List Text) : Decidable (c.Spells env args) :=
  decidable_of_iff _ (c.spells_iff env args).symm

theorem suits_levelOf_iff {env : Environment} {ps : List Piece}
    (h : AssignmentsFit (assignmentsOf ps)) :
    suits env (levelOf ps) = true ↔ Suited env ps := by
  rw [suits, levelOf, levelWith, h.isSome_output, Suited, ← isSome_lookup_iff, ← isSome_lookup_iff]
  cases env.capabilities <;> cases env.output <;> simp [Setting.Takes, or_comm]

/-- The lower level is asked first for the value of an option. -/
theorem Call.Spells.output_eq {c : Call} {env : Environment} {args : List Text}
    (h : c.Spells env args) :
    ((levelOf c.following).output.or (levelOf c.upper).output).or
      (env.output.bind OutputFormat.ofName?) = c.output env := by
  have hbind (ps : List Piece) (hps : AssignmentsFit (assignmentsOf ps)) (o : Option Text) :
      (levelOf ps).output.or (o.bind OutputFormat.ofName?) =
        (((assignmentsOf ps).lookup .output).or o).bind OutputFormat.ofName? := by
    -- A value that has been taken names a format, so the search never goes past it.
    have hsome := hps.isSome_output
    rw [levelOf, levelWith]
    cases hvalue : (assignmentsOf ps).lookup .output with
    | none => rfl
    | some value =>
      rw [hvalue] at hsome
      obtain ⟨format, hformat⟩ := Option.isSome_iff_exists.mp hsome
      simp_all
  rw [Option.or_assoc, hbind c.upper h.upper_fits.assignments,
    hbind c.following h.lower_fits.assignments, Call.output, Call.value?, Option.or_assoc]

theorem Name.ofText?_word (name : Name) : ofText? name.word = some name :=
  ofText?_eq_some_iff.mpr rfl

theorem Name.word_plain (name : Name) : IsPlain name.word := by cases name <;> decide

theorem ok_bind {α β ε : Type} (a : α) (f : α → Except ε β) : Except.ok a >>= f = f a := rfl

theorem Call.Spells.read {c : Call} {env : Environment} {args : List Text} {action : Action}
    (h : c.Spells env args) (ha : c.Asks action) :
    read env args = .ok (c.invocation env action) := by
  have hupper : readLevel none {} args = .ok (levelOf c.upper,
      c.name.word :: (c.lower.flatMap Piece.words ++ tailWords c.tail)) := by
    refine readLevel_upper_eq_ok_iff.mpr ⟨c.upper, h.words_eq.symm, ?_, h.upper_stands,
      h.upper_fits, rfl⟩
    rintro t ⟨⟩
    exact c.name.word_plain
  have hlower : readLevel (some c.name) {} (c.lower.flatMap Piece.words ++ tailWords c.tail) =
      .ok (levelOf c.following, []) :=
    readLevel_lower_eq_ok_iff.mpr ⟨c.lower, c.tail, rfl, rfl, h.lower_stands, h.lower_fits, rfl⟩
  have hsuits : (suits env (levelOf c.upper) && suits env (levelOf c.following)) = true := by
    rw [Bool.and_eq_true, suits_levelOf_iff h.upper_fits.assignments,
      suits_levelOf_iff h.lower_fits.assignments]
    exact ⟨h.upper_suited, h.lower_suited⟩
  rw [Arguments.read, hupper, ok_bind]
  simp only [Name.ofText?_word, hlower, ok_bind, c.action?_eq_some_iff.mpr ha, hsuits, h.output_eq]
  rfl

theorem exists_call_of_read {env : Environment} {args : List Text} {inv : Invocation}
    (h : read env args = .ok inv) :
    ∃ c : Call, c.Spells env args ∧ c.Asks inv.action ∧ inv = c.invocation env inv.action := by
  obtain ⟨⟨l, args'⟩, hupper, hrest⟩ := bind_eq_ok_iff.mp h
  obtain ⟨upper, rfl, -, hstands, hfits, rfl⟩ := readLevel_upper_eq_ok_iff.mp hupper
  dsimp only at hrest
  split at hrest
  next => cases hrest
  next word rest =>
  split at hrest
  next => cases hrest
  next name hname =>
  obtain rfl := Name.ofText?_eq_some_iff.mp hname
  obtain ⟨⟨l, none'⟩, hlower, hrest⟩ := bind_eq_ok_iff.mp hrest
  obtain ⟨lower, tail, rfl, rfl, hstands', hfits', rfl⟩ := readLevel_lower_eq_ok_iff.mp hlower
  dsimp only at hrest
  split at hrest
  next => cases hrest
  next action haction =>
  split at hrest
  next => cases hrest
  next hsuits =>
  cases hrest
  rw [Bool.not_eq_true', Bool.not_eq_false, Bool.and_eq_true,
    suits_levelOf_iff hfits.assignments, suits_levelOf_iff hfits'.assignments] at hsuits
  let c : Call := ⟨upper, name, lower, tail⟩
  have hc : c.Spells env c.words :=
    ⟨rfl, hstands, hstands', hfits, hfits', hsuits.1, hsuits.2⟩
  have haction : c.Asks action := c.action?_eq_some_iff.mp haction
  refine ⟨c, hc, haction, ?_⟩
  rw [Call.invocation, ← hc.output_eq]
  rfl

/-- Arguments are read as what a call asks for that is spelled with them. -/
theorem read_eq_ok_iff {env : Environment} {args : List Text} {inv : Invocation} :
    read env args = .ok inv ↔
      ∃ c : Call, c.Spells env args ∧ c.Asks inv.action ∧ inv = c.invocation env inv.action := by
  refine ⟨exists_call_of_read, ?_⟩
  rintro ⟨c, hc, ha, hinv⟩
  rw [hc.read ha, ← hinv]

end GatewayConfig.Arguments
