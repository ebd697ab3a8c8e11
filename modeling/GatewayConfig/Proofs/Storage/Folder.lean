import GatewayConfig.Storage.Basic
import GatewayConfig.Storage.Folder
import Mathlib.Data.List.Basic

/-! # Laws of storages

A storage over states is lawful if its files behave as files do: reading changes nothing, and
writing to a file that can be read succeeds, puts the text there and touches no other file. A
program that only reads leaves the state as it is, so each of its steps runs on the first state.
Main statement: a folder is a lawful storage.
-/

namespace GatewayConfig

variable {σ κ α β : Type}

/-- What follows an action runs on the state that the action leaves. -/
theorem bind_run_of_run {a : StateM σ α} {f g : σ} {x : α} (h : a f = (x, g))
    (next : α → StateM σ β) : (a >>= next) f = next x g := by
  change next (a f).1 (a f).2 = _
  rw [h]

def Keeps (a : StateM σ α) : Prop := ∀ f, (a f).2 = f

namespace Keeps

theorem pure (x : α) : Keeps (Pure.pure x : StateM σ α) := fun _ => rfl

theorem run_eq {a : StateM σ α} (h : Keeps a) (f : σ) : a f = ((a f).1, f) := Prod.ext rfl (h f)

theorem bind_run {a : StateM σ α} (h : Keeps a) (next : α → StateM σ β) (f : σ) :
    (a >>= next) f = next (a f).1 f :=
  bind_run_of_run (h.run_eq f) next

theorem bind {a : StateM σ α} {next : α → StateM σ β} (h : Keeps a)
    (hnext : ∀ x, Keeps (next x)) : Keeps (a >>= next) := by
  intro f
  rw [h.bind_run]
  exact hnext _ f

end Keeps

/-- The files of the storage behave as files do. A path leads in a state to the file that `file?`
tells, if it leads to one. -/
structure Storage.Lawful (s : Storage (StateM σ)) (file? : σ → Text → Option κ) : Prop where
  keeps_read : ∀ path, Keeps (s.read path)
  write_succeeds : ∀ path f contents t, (s.read path f).1 = .ok contents →
    (s.write path t f).1 = .ok ()
  read_written : ∀ path f contents t, (s.read path f).1 = .ok contents →
    ∀ other, file? f other = file? f path →
      (s.read other (s.write path t f).2).1 = .ok (some t)
  read_elsewhere : ∀ path f contents t, (s.read path f).1 = .ok contents →
    ∀ other, file? f other ≠ file? f path →
      (s.read other (s.write path t f).2).1 = (s.read other f).1

namespace Storage

def textOf : Except FileError Contents → Except FileError Text
  | .ok (some t) => .ok t
  | .ok none => .error .notUtf8
  | .error e => .error e

theorem textOf_eq_ok_iff {r : Except FileError Contents} {t : Text} :
    textOf r = .ok t ↔ r = .ok (some t) := by
  rcases r with _ | _ | u <;> simp [textOf]

namespace Lawful
variable {s : Storage (StateM σ)} {file? : σ → Text → Option κ}

theorem readText_run (hs : s.Lawful file?) (path : Text) (f : σ) :
    s.readText path f = (textOf (s.read path f).1, f) := by
  rw [readText, (hs.keeps_read path).bind_run]
  rcases (s.read path f).1 with _ | _ | t <;> rfl

theorem keeps_readText (hs : s.Lawful file?) (path : Text) : Keeps (s.readText path) := by
  intro f
  rw [hs.readText_run]

theorem readText_eq_ok_iff (hs : s.Lawful file?) {path : Text} {f : σ} {t : Text} :
    (s.readText path f).1 = .ok t ↔ (s.read path f).1 = .ok (some t) := by
  rw [hs.readText_run, textOf_eq_ok_iff]

end Lawful

end Storage

namespace Folder

def file? (f : Folder) (path : Text) : Option Text :=
  match f.resolve path with
  | .ok (.file name _) => some name
  | _ => none

/-- What a path leads to once the file with the name holds the contents. -/
def Target.refill (name : Text) (contents : Contents) : Target → Target
  | .file other old => .file other (if other = name then contents else old)
  | .directory => .directory
  | .vacant other => .vacant other

theorem read_eq_ok_iff {f : Folder} {path : Text} {contents : Contents} :
    f.read path = .ok contents ↔ ∃ name, f.resolve path = .ok (.file name contents) := by
  rw [read]
  split <;> simp_all

theorem find?_put (name : Text) (contents : Contents) (f : Folder) (other : Text) :
    (put name contents f).find? (·.name == other) =
      if other = name then some ⟨name, contents⟩ else f.find? (·.name == other) := by
  induction f with
  | nil =>
    by_cases h : other = name
    · simp [put, h]
    · simp [put, h, Ne.symm h]
  | cons file rest ih =>
    rw [put]
    split
    next hfile =>
      by_cases h : other = name
      · simp [h]
      · simp [h, hfile, Ne.symm h]
    next hfile =>
      by_cases h : file.name = other
      · have hother : other ≠ name := h ▸ hfile
        simp [h, hother]
      · rw [List.find?_cons_of_neg (by simpa using h), List.find?_cons_of_neg (by simpa using h),
          ih]

/-- Where the parts of a path lead does not change when a file gets other contents. -/
theorem walk_put {f : Folder} {name : Text} {file : File}
    (hfile : f.find? (·.name == name) = some file) (contents : Contents) (inside : Bool)
    (parts : List Text) :
    walk (put name contents f) inside parts =
      (walk f inside parts).map (Target.refill name contents) := by
  induction parts generalizing inside with
  | nil => rfl
  | cons part rest ih =>
    rw [walk, walk]
    split; · exact ih inside
    split; · exact ih false
    split; · rfl
    split; · rfl
    rw [find?_put]
    by_cases hpart : part = name
    · rw [if_pos hpart, hpart, hfile]
      cases rest with
      | nil => simp [Except.map, Target.refill]
      | cons _ _ => rfl
    · rw [if_neg hpart]
      cases f.find? (·.name == part) <;> cases rest <;>
        simp [Except.map, Target.refill, hpart]

theorem resolve_put {f : Folder} {name : Text} {file : File}
    (hfile : f.find? (·.name == name) = some file) (contents : Contents) (path : Text) :
    resolve (put name contents f) path =
      (f.resolve path).map (Target.refill name contents) := by
  rw [resolve, resolve]
  split; · rfl
  split; · rfl
  split; · rfl
  exact walk_put hfile contents _ _

/-- The file that is reached is one of the folder. -/
theorem find?_of_walk {f : Folder} {inside : Bool} {parts : List Text} {name : Text}
    {contents : Contents} (h : f.walk inside parts = .ok (.file name contents)) :
    f.find? (·.name == name) = some ⟨name, contents⟩ := by
  induction parts generalizing inside with
  | nil => cases h
  | cons part rest ih =>
    rw [walk] at h
    split at h; · exact ih h
    split at h; · exact ih h
    split at h; · cases h
    split at h; · cases h
    split at h
    next file hfind =>
      split at h
      · have hname := List.find?_some hfind
        simp only [beq_iff_eq] at hname
        cases h
        rw [hfind, ← hname]
      · cases h
    next => split at h <;> cases h

theorem walk_append_empty (f : Folder) (inside : Bool) (parts : List Text) (name : Text)
    (contents : Contents) : f.walk inside (parts ++ [[]]) ≠ .ok (.file name contents) := by
  induction parts generalizing inside with
  | nil => nofun
  | cons part rest ih =>
    have hrest : (rest ++ [[]]).isEmpty = false := by simp
    rw [List.cons_append, walk]
    split; · exact ih inside
    split; · exact ih false
    split; · nofun
    split; · nofun
    split <;> simp [hrest]

theorem find?_of_resolve {f : Folder} {path name : Text} {contents : Contents}
    (h : f.resolve path = .ok (.file name contents)) :
    f.find? (·.name == name) = some ⟨name, contents⟩ := by
  rw [resolve] at h
  split at h; · cases h
  split at h; · cases h
  split at h; · cases h
  exact find?_of_walk h

theorem resolve_concat_slash (f : Folder) (path name : Text) (contents : Contents) :
    f.resolve (path ++ ['/']) ≠ .ok (.file name contents) := by
  rw [resolve, List.splitOn_append_cons_self, List.splitOn_nil]
  split; · nofun
  split; · nofun
  split; · nofun
  exact walk_append_empty f _ _ name contents

/-- Writing to the path of a file puts the text there. -/
theorem write_of_resolve {f : Folder} {path name : Text} {contents : Contents}
    (h : f.resolve path = .ok (.file name contents)) (t : Text) :
    f.write path t = .ok (put name (some t) f) := by
  have hlast : ∀ rest, path ≠ rest ++ ['/'] := by
    rintro rest rfl
    exact resolve_concat_slash f rest name contents h
  have htrailing : "/".toList.isSuffixOf path = false := by
    rw [Bool.eq_false_iff, ne_eq, List.isSuffixOf_iff_suffix]
    rintro ⟨rest, hrest⟩
    exact hlast rest hrest.symm
  have htarget : (path.reverse.dropWhile (· == '/')).reverse = path := by
    rw [List.reverse_eq_iff]
    cases hreverse : path.reverse with
    | nil => rfl
    | cons c rest =>
      have hc : c ≠ '/' := by
        rintro rfl
        exact hlast rest.reverse (by rw [List.reverse_eq_iff.mp hreverse, List.reverse_cons])
      rw [List.dropWhile_cons_of_neg (by simpa using hc)]
  simp only [write, htarget, htrailing, ite_self, h, Bool.false_eq_true, if_false]

theorem lawful_storage : storage.Lawful file? where
  keeps_read path f := rfl
  write_succeeds path f contents t h := by
    obtain ⟨name, hname⟩ := read_eq_ok_iff.mp h
    simp only [storage, write_of_resolve hname]
  read_written path f contents t h other hother := by
    obtain ⟨name, hname⟩ := read_eq_ok_iff.mp h
    have hpath : f.file? path = some name := by rw [file?, hname]
    simp only [storage, write_of_resolve hname]
    rw [hpath, file?] at hother
    split at hother
    next other' old hresolve =>
      cases hother
      refine read_eq_ok_iff.mpr ⟨name, ?_⟩
      rw [resolve_put (find?_of_resolve hname), hresolve]
      simp [Except.map, Target.refill]
    next => cases hother
  read_elsewhere path f contents t h other hother := by
    obtain ⟨name, hname⟩ := read_eq_ok_iff.mp h
    have hpath : f.file? path = some name := by rw [file?, hname]
    simp only [storage, write_of_resolve hname]
    rw [hpath, file?] at hother
    rw [read, read, resolve_put (find?_of_resolve hname)]
    cases hresolve : f.resolve other with
    | error e => rfl
    | ok target =>
      cases target with
      | directory => rfl
      | vacant _ => rfl
      | file name' old =>
        rw [hresolve] at hother
        have hne : name' ≠ name := fun h => hother (congrArg some h)
        simp [Except.map, Target.refill, hne]

end Folder

end GatewayConfig
