import GatewayConfig.Proofs.Command.Words
import Mathlib.Data.List.Induction
import Mathlib.Data.List.Nodup
import Mathlib.Tactic.MkIffOfInductiveProp

/-! # What is read on a level

The arguments of a level are read exactly if they are groups that can stand together: no flag and
no option twice, a value for each option, no wish for help, and no more operands than the command
takes. What has been read is then a function of the groups. A step reads one group, a run reads
them all.
-/

namespace GatewayConfig.Arguments

theorem bind_eq_ok_iff {α β ε : Type} {x : Except ε α} {f : α → Except ε β} {b : β} :
    x >>= f = .ok b ↔ ∃ a, x = .ok a ∧ f a = .ok b := by
  cases x with
  | error e => exact iff_of_false nofun fun ⟨_, h, _⟩ => nomatch h
  | ok a => exact ⟨fun h => ⟨a, rfl, h⟩, fun ⟨_, rfl, h⟩ => h⟩

/-- What a group does to the level that it is read on. -/
def Level.accept (level : Option Name) (l : Level) : Piece → Except Refusal Level
  | .flag f => l.raise f
  | .cluster flags => flags.foldlM raise l
  | .joined s value | .apart s value => l.assign s value
  | .operand value =>
    match level with
    | none => .error .usage
    | some name => l.take name value

def Setting.Takes : Setting → Text → Prop
  | settings, value | capabilities, value => value ≠ []
  | output, value => (OutputFormat.ofName? value).isSome = true

instance : (s : Setting) → DecidablePred s.Takes
  | .settings | .capabilities => fun _ => inferInstanceAs (Decidable (_ ≠ _))
  | .output => fun _ => inferInstanceAs (Decidable (_ = _))

/-- The flags are different ones, and none of them asks for help. -/
def FlagsFit (flags : List Flag) : Prop := flags.Nodup ∧ .help ∉ flags ∧ .version ∉ flags

/-- No option has two values, and each takes the one that it has. -/
def AssignmentsFit (assignments : List (Setting × Text)) : Prop :=
  (assignments.map Prod.fst).Nodup ∧ ∀ a ∈ assignments, a.1.Takes a.2

/-- There are no more operands than the command takes, and only a type may be empty. -/
def OperandsFit (level : Option Name) (operands : List Text) : Prop :=
  operands.length ≤ level.elim 0 Level.arity ∧
    ∀ value ∈ operands, value = [] → level = some .fields

instance : DecidablePred FlagsFit := fun _ => inferInstanceAs (Decidable (_ ∧ _))

instance : DecidablePred AssignmentsFit := fun _ => inferInstanceAs (Decidable (_ ∧ _))

instance (level : Option Name) : DecidablePred (OperandsFit level) :=
  fun _ => inferInstanceAs (Decidable (_ ∧ _))

def levelWith (flags : List Flag) (assignments : List (Setting × Text)) (operands : List Text) :
    Level where
  flags
  settings := assignments.lookup .settings
  capabilities := assignments.lookup .capabilities
  output := (assignments.lookup .output).bind OutputFormat.ofName?
  operands

section Laws

variable {flags : List Flag} {assignments : List (Setting × Text)} {level : Option Name}
  {operands : List Text} {m : Level} {f : Flag} {s : Setting} {name : Name} {value : Text}

theorem FlagsFit.of_append {more : List Flag} (h : FlagsFit (flags ++ more)) : FlagsFit flags :=
  ⟨(List.nodup_append.mp h.1).1, fun hf => h.2.1 (List.mem_append_left more hf),
    fun hf => h.2.2 (List.mem_append_left more hf)⟩

theorem AssignmentsFit.of_append {more : List (Setting × Text)}
    (h : AssignmentsFit (assignments ++ more)) : AssignmentsFit assignments := by
  rw [AssignmentsFit, List.map_append, List.nodup_append, List.forall_mem_append] at h
  exact ⟨h.1.1, h.2.1⟩

theorem OperandsFit.of_append {more : List Text} (h : OperandsFit level (operands ++ more)) :
    OperandsFit level operands := by
  rw [OperandsFit, List.length_append, List.forall_mem_append] at h
  exact ⟨Nat.le_of_add_right_le h.1, h.2.1⟩

theorem flagsFit_concat_iff (h : FlagsFit flags) :
    FlagsFit (flags ++ [f]) ↔ f ≠ .help ∧ f ≠ .version ∧ f ∉ flags := by
  rw [FlagsFit, ← List.concat_eq_append, List.nodup_concat]
  simp [h.1, h.2, and_comm, and_assoc, eq_comm]

theorem isSome_lookup_iff :
    (assignments.lookup s).isSome = true ↔ s ∈ assignments.map Prod.fst := by
  rw [List.lookup_isSome_iff]
  simp

theorem assignmentsFit_concat_iff (h : AssignmentsFit assignments) :
    AssignmentsFit (assignments ++ [(s, value)]) ↔
      (assignments.lookup s).isSome = false ∧ s.Takes value := by
  rw [← Bool.not_eq_true, isSome_lookup_iff, AssignmentsFit, List.forall_mem_append,
    List.forall_mem_singleton, List.map_append, List.map_singleton, ← List.concat_eq_append,
    List.nodup_concat]
  exact ⟨fun hfit => ⟨hfit.1.1, hfit.2.2⟩, fun hnew => ⟨⟨hnew.1, h.1⟩, h.2, hnew.2⟩⟩

theorem operandsFit_concat_iff (h : OperandsFit level operands) :
    OperandsFit level (operands ++ [value]) ↔
      operands.length < level.elim 0 Level.arity ∧ (value = [] → level = some .fields) := by
  rw [OperandsFit, List.forall_mem_append, List.forall_mem_singleton, List.length_append]
  exact ⟨fun hfit => ⟨hfit.1, hfit.2.2⟩, fun hnew => ⟨hnew.1, h.2, hnew.2⟩⟩

theorem raise_levelWith_eq_ok_iff (h : FlagsFit flags) :
    (levelWith flags assignments operands).raise f = .ok m ↔
      FlagsFit (flags ++ [f]) ∧ m = levelWith (flags ++ [f]) assignments operands := by
  rw [flagsFit_concat_iff h]
  simp only [Level.raise, levelWith, Bool.or_eq_true, decide_eq_true_eq, List.contains_iff_mem]
  split
  next hf => exact iff_of_false nofun fun ⟨⟨hhelp, hversion, _⟩, _⟩ => hf.elim hhelp hversion
  next hf =>
    obtain ⟨hhelp, hversion⟩ := not_or.mp hf
    split
    next hold => exact iff_of_false nofun fun ⟨⟨_, _, hnew⟩, _⟩ => hnew hold
    next hnew => simp [hhelp, hversion, hnew, eq_comm]

theorem foldlM_raise_levelWith_eq_ok_iff {more : List Flag} (h : FlagsFit flags) :
    more.foldlM Level.raise (levelWith flags assignments operands) = .ok m ↔
      FlagsFit (flags ++ more) ∧ m = levelWith (flags ++ more) assignments operands := by
  induction more generalizing flags with
  | nil => simp [h, pure, Except.pure, eq_comm]
  | cons f more ih =>
    rw [List.foldlM_cons, bind_eq_ok_iff, List.append_cons]
    constructor
    · rintro ⟨k, hk, hrest⟩
      obtain ⟨hfit, rfl⟩ := (raise_levelWith_eq_ok_iff h).mp hk
      exact (ih hfit).mp hrest
    · intro hm
      have hfit := hm.1.of_append
      exact ⟨_, (raise_levelWith_eq_ok_iff h).mpr ⟨hfit, rfl⟩, (ih hfit).mpr hm⟩

/-- An output format that is given is one that is known. -/
theorem AssignmentsFit.isSome_output (h : AssignmentsFit assignments) :
    ((assignments.lookup .output).bind OutputFormat.ofName?).isSome =
      (assignments.lookup .output).isSome := by
  cases hvalue : assignments.lookup .output with
  | none => rfl
  | some value =>
    obtain ⟨before, after, hsplit, -⟩ := List.lookup_eq_some_iff.mp hvalue
    exact h.2 (.output, value) (by simp [hsplit])

theorem assign_levelWith_eq_ok_iff (h : AssignmentsFit assignments) :
    (levelWith flags assignments operands).assign s value = .ok m ↔
      AssignmentsFit (assignments ++ [(s, value)]) ∧
        m = levelWith flags (assignments ++ [(s, value)]) operands := by
  have hlookup (t : Setting) : (assignments ++ [(s, value)]).lookup t =
      (assignments.lookup t).or (if t = s then some value else none) := by
    by_cases hts : t = s <;> simp [List.lookup_append, List.lookup_cons, hts, beq_false_of_ne]
  rw [assignmentsFit_concat_iff h, eq_comm (b := levelWith _ _ _)]
  cases s with
  | settings =>
    cases hold : assignments.lookup .settings <;> cases value <;>
      simp [Level.assign, levelWith, Setting.Takes, hlookup, hold]
  | capabilities =>
    cases hold : assignments.lookup .capabilities <;> cases value <;>
      simp [Level.assign, levelWith, Setting.Takes, hlookup, hold]
  | output =>
    cases hv : OutputFormat.ofName? value with
    | none => simp [Level.assign, Setting.Takes, hv]
    | some format =>
      simp only [Level.assign, levelWith, hv, h.isSome_output]
      cases hold : assignments.lookup .output <;> simp [Setting.Takes, hlookup, hold, hv]

theorem take_levelWith_eq_ok_iff (h : OperandsFit (some name) operands) :
    (levelWith flags assignments operands).take name value = .ok m ↔
      OperandsFit (some name) (operands ++ [value]) ∧
        m = levelWith flags assignments (operands ++ [value]) := by
  have hname : some name = some Name.fields ↔ name = .fields := Option.some_inj
  have htakes : (decide (operands.length < Level.arity name) &&
      !(value.isEmpty && name != .fields)) = true ↔
      operands.length < Level.arity name ∧ (value = [] → name = .fields) := by
    simp [← imp_iff_not_or]
  rw [operandsFit_concat_iff h, hname, Level.take, levelWith]
  split
  next hv => exact ⟨fun hm => ⟨htakes.mp hv, by cases hm; rfl⟩, fun hm => by rw [hm.2]; rfl⟩
  next hv => exact iff_of_false nofun fun hm => hv (htakes.mpr hm.1)

end Laws

/-- The flags of a cluster are raised in the order of its letters. -/
theorem raiseAll_letters {level : Option Name} {l : Level} {flags : List Flag}
    (h : ∀ f ∈ flags, f.letter?.isSome = true ∧ f.isKnown level = true) :
    l.raiseAll level (flags.filterMap Flag.letter?) = flags.foldlM Level.raise l := by
  induction flags generalizing l with
  | nil => rfl
  | cons f flags ih =>
    obtain ⟨⟨hletter, hf⟩, hflags⟩ := List.forall_mem_cons.mp h
    obtain ⟨c, hc⟩ := Option.isSome_iff_exists.mp hletter
    have hshort : shortFlag? level c = some f := shortFlag?_eq_some_iff.mpr ⟨hc, hf⟩
    rw [List.filterMap_cons_some hc, Level.raiseAll, List.foldlM_cons, List.foldlM_cons, hshort]
    exact bind_congr fun m => ih hflags

theorem exists_letters_of_raiseAll {level : Option Name} {l m : Level} {letters : Text}
    (h : l.raiseAll level letters = .ok m) :
    ∃ flags : List Flag, flags.filterMap Flag.letter? = letters ∧
      ∀ f ∈ flags, f.letter?.isSome = true ∧ f.isKnown level = true := by
  induction letters generalizing l with
  | nil => exact ⟨[], rfl, nofun⟩
  | cons c letters ih =>
    rw [Level.raiseAll, List.foldlM_cons, bind_eq_ok_iff] at h
    obtain ⟨k, hk, hrest⟩ := h
    obtain ⟨flags, rfl, hflags⟩ := ih hrest
    split at hk
    next f hf =>
      obtain ⟨hc, hf⟩ := shortFlag?_eq_some_iff.mp hf
      have hletter : f.letter?.isSome = true := by rw [hc]; rfl
      exact ⟨f :: flags, List.filterMap_cons_some hc,
        List.forall_mem_cons.mpr ⟨⟨hletter, hf⟩, hflags⟩⟩
    next => cases hk

section Groups

variable (ps : List Piece)

def flagsOf : List Flag := ps.flatMap Piece.flags

def assignmentsOf : List (Setting × Text) := ps.flatMap Piece.assignments

def operandsOf : List Text := ps.flatMap Piece.operands

def levelOf : Level := levelWith (flagsOf ps) (assignmentsOf ps) (operandsOf ps)

/-- The groups can stand together on a level. -/
@[mk_iff]
structure Fits (level : Option Name) : Prop where
  flags : FlagsFit (flagsOf ps)
  assignments : AssignmentsFit (assignmentsOf ps)
  operands : OperandsFit level (operandsOf ps)

end Groups

instance (level : Option Name) (ps : List Piece) : Decidable (Fits ps level) :=
  decidable_of_iff _ (fits_iff ps level).symm

variable {level : Option Name} {ps : List Piece} {p : Piece} {m : Level}

theorem fits_nil : Fits [] level :=
  ⟨⟨.nil, nofun, nofun⟩, ⟨.nil, nofun⟩, ⟨Nat.zero_le _, nofun⟩⟩

theorem fits_concat_iff :
    Fits (ps ++ [p]) level ↔ FlagsFit (flagsOf ps ++ p.flags) ∧
      AssignmentsFit (assignmentsOf ps ++ p.assignments) ∧
      OperandsFit level (operandsOf ps ++ p.operands) := by
  simp [fits_iff, flagsOf, assignmentsOf, operandsOf]

theorem Fits.of_concat (h : Fits (ps ++ [p]) level) : Fits ps level := by
  rw [fits_concat_iff] at h
  exact ⟨h.1.of_append, h.2.1.of_append, h.2.2.of_append⟩

theorem levelOf_concat :
    levelOf (ps ++ [p]) = levelWith (flagsOf ps ++ p.flags) (assignmentsOf ps ++ p.assignments)
      (operandsOf ps ++ p.operands) := by
  simp [levelOf, flagsOf, assignmentsOf, operandsOf]

theorem accept_levelOf_eq_ok_iff (h : Fits ps level) :
    (levelOf ps).accept level p = .ok m ↔ Fits (ps ++ [p]) level ∧ m = levelOf (ps ++ [p]) := by
  rw [fits_concat_iff, levelOf_concat]
  cases p with
  | flag f =>
    simp only [Piece.flags, Piece.assignments, Piece.operands, List.append_nil, h.assignments,
      h.operands, and_true]
    exact raise_levelWith_eq_ok_iff h.flags
  | cluster flags =>
    simp only [Piece.flags, Piece.assignments, Piece.operands, List.append_nil, h.assignments,
      h.operands, and_true]
    exact foldlM_raise_levelWith_eq_ok_iff h.flags
  | joined s value | apart s value =>
    simp only [Piece.flags, Piece.assignments, Piece.operands, List.append_nil, h.flags,
      h.operands, and_true, true_and]
    exact assign_levelWith_eq_ok_iff h.assignments
  | operand value =>
    simp only [Piece.flags, Piece.assignments, Piece.operands, List.append_nil, h.flags,
      h.assignments, true_and]
    cases level with
    | none => exact iff_of_false nofun fun hm => by simpa [OperandsFit] using hm.1
    | some name => exact take_levelWith_eq_ok_iff h.operands

/-- Groups are read one after another exactly if they can stand together. -/
theorem foldlM_accept_eq_ok_iff :
    ps.foldlM (Level.accept level) {} = .ok m ↔ Fits ps level ∧ m = levelOf ps := by
  -- The last group is read on what the groups before it come to.
  induction ps using List.reverseRecOn generalizing m with
  | nil => exact ⟨fun h => ⟨fits_nil, (Except.ok.inj h).symm⟩, fun h => h.2 ▸ rfl⟩
  | append_singleton ps p ih =>
    rw [List.foldlM_append, bind_eq_ok_iff]
    simp only [List.foldlM_cons, List.foldlM_nil, bind_pure]
    constructor
    · rintro ⟨l, hl, hp⟩
      obtain ⟨hfits, rfl⟩ := ih.mp hl
      exact (accept_levelOf_eq_ok_iff hfits).mp hp
    · intro hm
      have hfits := hm.1.of_concat
      exact ⟨levelOf ps, ih.mpr ⟨hfits, rfl⟩, (accept_levelOf_eq_ok_iff hfits).mpr hm⟩

end GatewayConfig.Arguments
