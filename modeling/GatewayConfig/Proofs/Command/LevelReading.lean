import GatewayConfig.Proofs.Command.Levels

/-! # How the arguments of a level are read

The first arguments of a level are a group, or the level ends with them. So a level is read group
by group, and what is read is what the groups come to. The upper level ends before the name of a
command, the lower one with all arguments or before operands that are not looked at.
-/

namespace GatewayConfig.Arguments

variable {level : Option Name} {ps : List Piece} {p : Piece}

/-- Where the groups of a level end: with all arguments, before the name of a command, or before
the operands that are not looked at. -/
inductive Ends : Option Name → Level → List Text → Level × List Text → Prop
  | nil {level l} : Ends level l [] (l, [])
  | command {l t args} (ht : IsPlain t) : Ends none l (t :: args) (l, t :: args)
  | terminator {name l m args} (h : args.foldlM (fun l value => l.take name value) l = .ok m) :
      Ends (some name) l (['-', '-'] :: args) (m, [])

theorem readLevel_words {args : List Text} {l : Level} (hp : p.Stands level) :
    readLevel level l (p.words ++ args) = l.accept level p >>= (readLevel level · args) := by
  cases p with
  | flag f =>
    have hshape : Shape.ofText ('-' :: '-' :: f.word) = .long f.word none :=
      Shape.ofText_eq_iff.mpr ⟨rfl, f.word_proper.1, fun _ => f.word_proper.2⟩
    have hflag : longFlag? level f.word = some f := longFlag?_eq_some_iff.mpr ⟨rfl, hp⟩
    rw [Piece.words, List.singleton_append, readLevel.eq_def]
    simp only [hshape, hflag, Level.accept]
  | cluster flags =>
    obtain ⟨hne, hflags⟩ := hp
    obtain ⟨f, hf⟩ := List.exists_mem_of_ne_nil flags hne
    obtain ⟨c, hc⟩ := Option.isSome_iff_exists.mp (hflags f hf).1
    have hletters : flags.filterMap Flag.letter? ≠ [] :=
      List.ne_nil_of_mem (List.mem_filterMap.mpr ⟨f, hf, hc⟩)
    have hhead : (flags.filterMap Flag.letter?).head? ≠ some '-' := by
      intro hhyphen
      obtain ⟨g, -, hg⟩ := List.mem_filterMap.mp (List.mem_of_head? hhyphen)
      exact g.letter?_ne_hyphen hg
    have hshape : Shape.ofText ('-' :: flags.filterMap Flag.letter?) =
        .cluster (flags.filterMap Flag.letter?) :=
      Shape.ofText_eq_iff.mpr ⟨rfl, hletters, hhead⟩
    rw [Piece.words, List.singleton_append, readLevel.eq_def]
    simp only [hshape, raiseAll_letters hflags, Level.accept]
  | joined s value =>
    have hshape : Shape.ofText ('-' :: '-' :: (s.word ++ '=' :: value)) =
        .long s.word (some value) :=
      Shape.ofText_eq_iff.mpr ⟨rfl, s.word_proper.1, (absurd · (Option.some_ne_none value))⟩
    rw [Piece.words, List.singleton_append, readLevel.eq_def]
    simp only [hshape, setting?_eq_some_iff.mpr rfl, Level.accept, Level.assignTo]
  | apart s value =>
    have hshape : Shape.ofText ('-' :: '-' :: s.word) = .long s.word none :=
      Shape.ofText_eq_iff.mpr ⟨rfl, s.word_proper.1, fun _ => s.word_proper.2⟩
    have hvalue : Shape.ofText value = .operand value := Shape.ofText_eq_iff.mpr ⟨rfl, hp⟩
    rw [Piece.words, List.cons_append, List.singleton_append, readLevel.eq_def]
    simp only [hshape, hvalue, longFlag?_word, setting?_eq_some_iff.mpr rfl, Level.accept,
      Level.assignNext, Level.assignTo]
  | operand value =>
    have hshape : Shape.ofText value = .operand value := Shape.ofText_eq_iff.mpr ⟨rfl, hp.1⟩
    obtain ⟨name, rfl⟩ := Option.ne_none_iff_exists'.mp hp.2
    rw [Piece.words, List.singleton_append, readLevel.eq_def]
    simp only [hshape, Level.accept]

theorem readLevel_of_ends {args : List Text} {l : Level} {r : Level × List Text}
    (h : Ends level l args r) : readLevel level l args = .ok r := by
  cases h with
  | nil => rw [readLevel]
  | @command l t args ht =>
    have hshape : Shape.ofText t = .operand t := Shape.ofText_eq_iff.mpr ⟨rfl, ht⟩
    rw [readLevel, hshape]
  | terminator h =>
    have hshape : Shape.ofText ['-', '-'] = .terminator := rfl
    rw [readLevel, hshape]
    dsimp only
    rw [h]
    rfl

theorem assignTo_eq_ok_iff {l m : Level} {s? : Option Setting} {value : Text} :
    l.assignTo s? value = .ok m ↔ ∃ s, s? = some s ∧ l.assign s value = .ok m := by
  cases s? <;> simp [Level.assignTo]

theorem assignNext_eq_ok_iff {l m : Level} {s? : Option Setting} {arg : Text} :
    l.assignNext s? arg = .ok m ↔ IsPlain arg ∧ ∃ s, s? = some s ∧ l.assign s arg = .ok m := by
  rw [Level.assignNext, ← assignTo_eq_ok_iff]
  constructor
  · intro h
    split at h
    next value hshape =>
      obtain ⟨rfl, hplain⟩ := Shape.ofText_eq_iff.mp hshape
      exact ⟨hplain, h⟩
    next => cases h
  · rintro ⟨hplain, h⟩
    have hshape : Shape.ofText arg = .operand arg := Shape.ofText_eq_iff.mpr ⟨rfl, hplain⟩
    rw [hshape]
    exact h

/-- The first arguments are a group, unless the level ends with them. -/
theorem readLevel_cases {args : List Text} {l : Level} {r : Level × List Text}
    (h : readLevel level l args = .ok r) :
    Ends level l args r ∨ ∃ p m rest, Piece.Stands level p ∧ args = p.words ++ rest ∧
      l.accept level p = .ok m ∧ readLevel level m rest = .ok r := by
  rw [readLevel.eq_def] at h
  split at h
  next => cases h; exact .inl .nil
  next arg rest =>
  -- The cases are the shapes that the next argument can have.
  split at h
  next hshape =>
    obtain ⟨rfl, -⟩ := Shape.ofText_eq_iff.mp hshape
    split at h
    next => cases h
    next name =>
      obtain ⟨m, hm, hr⟩ := bind_eq_ok_iff.mp h
      cases hr
      exact .inl (.terminator hm)
  next letters hshape =>
    obtain ⟨rfl, hne, -⟩ := Shape.ofText_eq_iff.mp hshape
    obtain ⟨m, hm, hrest⟩ := bind_eq_ok_iff.mp h
    obtain ⟨flags, rfl, hflags⟩ := exists_letters_of_raiseAll hm
    refine .inr ⟨.cluster flags, m, rest, ⟨?_, hflags⟩, rfl, ?_, hrest⟩
    · rintro rfl
      exact hne rfl
    · rw [Level.accept, ← raiseAll_letters hflags, hm]
  next t hshape =>
    obtain ⟨rfl, ht⟩ := Shape.ofText_eq_iff.mp hshape
    split at h
    next => cases h; exact .inl (.command ht)
    next name =>
      obtain ⟨m, hm, hrest⟩ := bind_eq_ok_iff.mp h
      exact .inr ⟨.operand _, m, rest, ⟨ht, Option.some_ne_none name⟩, rfl, hm, hrest⟩
  next word hshape =>
    obtain ⟨rfl, -⟩ := Shape.ofText_eq_iff.mp hshape
    split at h
    next f hf =>
      obtain ⟨rfl, hknown⟩ := longFlag?_eq_some_iff.mp hf
      obtain ⟨m, hm, hrest⟩ := bind_eq_ok_iff.mp h
      exact .inr ⟨.flag f, m, rest, hknown, rfl, hm, hrest⟩
    next =>
      split at h
      next => cases h
      next value rest =>
        obtain ⟨m, hm, hrest⟩ := bind_eq_ok_iff.mp h
        obtain ⟨hplain, s, hs, hassign⟩ := assignNext_eq_ok_iff.mp hm
        obtain rfl := setting?_eq_some_iff.mp hs
        exact .inr ⟨.apart s value, m, rest, hplain, rfl, hassign, hrest⟩
  next word value hshape =>
    obtain ⟨rfl, -⟩ := Shape.ofText_eq_iff.mp hshape
    obtain ⟨m, hm, hrest⟩ := bind_eq_ok_iff.mp h
    obtain ⟨s, hs, hassign⟩ := assignTo_eq_ok_iff.mp hm
    obtain rfl := setting?_eq_some_iff.mp hs
    exact .inr ⟨.joined s value, m, rest, trivial, rfl, hassign, hrest⟩

/-- A level is read exactly if its arguments are groups that are read one after another. -/
theorem readLevel_eq_ok_iff {args : List Text} {l : Level} {r : Level × List Text} :
    readLevel level l args = .ok r ↔
      ∃ (ps : List Piece) (rest : List Text) (m : Level), (∀ p ∈ ps, p.Stands level) ∧
        args = ps.flatMap Piece.words ++ rest ∧
        ps.foldlM (Level.accept level) l = .ok m ∧ Ends level m rest r := by
  constructor
  · intro h
    -- An option in two arguments takes both at once, so the induction is on how many are left.
    induction hlength : args.length using Nat.strongRecOn generalizing args l with
    | ind n ih =>
      subst hlength
      rcases readLevel_cases h with hends | ⟨p, m, rest, hp, rfl, hm, hrest⟩
      · exact ⟨[], args, l, nofun, rfl, rfl, hends⟩
      · have hshort : rest.length < (p.words ++ rest).length := by
          have hwords : p.words ≠ [] := by cases p <;> simp [Piece.words]
          simpa [List.length_pos_iff] using hwords
        obtain ⟨ps, last, k, hps, rfl, hk, hends⟩ := ih _ hshort hrest rfl
        refine ⟨p :: ps, last, k, List.forall_mem_cons.mpr ⟨hp, hps⟩, by simp, ?_, hends⟩
        rw [List.foldlM_cons, hm]
        exact hk
  · rintro ⟨ps, rest, m, hps, rfl, hm, hends⟩
    induction ps generalizing l with
    | nil =>
      cases hm
      exact readLevel_of_ends hends
    | cons p ps ih =>
      obtain ⟨hp, hps⟩ := List.forall_mem_cons.mp hps
      rw [List.foldlM_cons, bind_eq_ok_iff] at hm
      obtain ⟨k, hk, hm⟩ := hm
      rw [List.flatMap_cons, List.append_assoc, readLevel_words hp, hk]
      exact ih hps hm

theorem readLevel_upper_eq_ok_iff {args rest : List Text} {l : Level} :
    readLevel none {} args = .ok (l, rest) ↔
      ∃ ps : List Piece, args = ps.flatMap Piece.words ++ rest ∧ (∀ t ∈ rest.head?, IsPlain t) ∧
        (∀ p ∈ ps, p.Stands none) ∧ Fits ps none ∧ l = levelOf ps := by
  rw [readLevel_eq_ok_iff]
  simp only [foldlM_accept_eq_ok_iff]
  constructor
  · rintro ⟨ps, last, m, hps, rfl, ⟨hfits, rfl⟩, hends⟩
    cases hends with
    | nil => exact ⟨ps, rfl, nofun, hps, hfits, rfl⟩
    | command ht => exact ⟨ps, rfl, by simpa using ht, hps, hfits, rfl⟩
  · rintro ⟨ps, rfl, hrest, hps, hfits, rfl⟩
    refine ⟨ps, rest, _, hps, rfl, ⟨hfits, rfl⟩, ?_⟩
    cases rest with
    | nil => exact .nil
    | cons t rest => exact .command (hrest t rfl)

def tailWords : Option (List Text) → List Text
  | none => []
  | some operands => ['-', '-'] :: operands

theorem readLevel_lower_eq_ok_iff {name : Name} {args rest : List Text} {l : Level} :
    readLevel (some name) {} args = .ok (l, rest) ↔
      ∃ (ps : List Piece) (tail : Option (List Text)),
        args = ps.flatMap Piece.words ++ tailWords tail ∧ rest = [] ∧
        (∀ p ∈ ps, p.Stands (some name)) ∧
        Fits (ps ++ (tail.getD []).map Piece.operand) (some name) ∧
        l = levelOf (ps ++ (tail.getD []).map Piece.operand) := by
  rw [readLevel_eq_ok_iff]
  have htail (ps : List Piece) (operands : List Text) (m : Level) :
      (∃ k, ps.foldlM (Level.accept (some name)) {} = .ok k ∧
        operands.foldlM (fun l value => l.take name value) k = .ok m) ↔
      Fits (ps ++ operands.map Piece.operand) (some name) ∧
        m = levelOf (ps ++ operands.map Piece.operand) := by
    rw [← foldlM_accept_eq_ok_iff, List.foldlM_append, bind_eq_ok_iff]
    simp only [List.foldlM_map, Level.accept]
  constructor
  · rintro ⟨ps, last, m, hps, rfl, hm, hends⟩
    cases hends with
    | nil =>
      refine ⟨ps, none, rfl, rfl, hps, ?_⟩
      simpa using foldlM_accept_eq_ok_iff.mp hm
    | @terminator _ _ _ operands h =>
      exact ⟨ps, some operands, rfl, rfl, hps, (htail ps operands l).mp ⟨m, hm, h⟩⟩
  · rintro ⟨ps, tail, rfl, rfl, hps, hl⟩
    obtain ⟨m, hm, hoperands⟩ := (htail ps _ l).mpr hl
    refine ⟨ps, _, m, hps, rfl, hm, ?_⟩
    cases tail with
    | none =>
      cases hoperands
      exact .nil
    | some operands => exact .terminator hoperands

end GatewayConfig.Arguments
