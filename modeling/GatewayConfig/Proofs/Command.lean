import GatewayConfig.Command.Run
import GatewayConfig.Proofs.Command.Arguments
import GatewayConfig.Proofs.Document.Reload
import GatewayConfig.Proofs.Storage.Folder

/-! # What a call does to the files

Settings, reports and documents are only read. So every command leaves the files of a lawful
storage as they are, but for formatting in place, which ends with its only write. What it writes
does not change by being read and written, so that the file is found formatted from then on.
-/

namespace GatewayConfig

variable {σ κ : Type} {s : Storage (StateM σ)} {file? : σ → Text → Option κ}

namespace Storage.Lawful

theorem keeps_loadSettings (hs : s.Lawful file?) (path : Text) : Keeps (Settings.load s path) := by
  rw [Settings.load]
  refine (hs.keeps_readText path).bind fun r => ?_
  split
  · split <;> exact .pure _
  · exact .pure _

theorem loadSettings_fst (hs : s.Lawful file?) {path t : Text} {f : σ} {settings : Settings}
    (ht : (s.readText path f).1 = .ok t) (hsettings : Settings.read? t = some settings) :
    (Settings.load s path f).1 = .ok settings := by
  rw [Settings.load, (hs.keeps_readText path).bind_run, ht]
  dsimp only
  rw [hsettings]
  rfl

theorem loadSettings_congr (hs : s.Lawful file?) {path : Text} {f g : σ}
    (h : (s.read path g).1 = (s.read path f).1) :
    (Settings.load s path g).1 = (Settings.load s path f).1 := by
  rw [Settings.load, (hs.keeps_readText path).bind_run, (hs.keeps_readText path).bind_run,
    hs.readText_run, hs.readText_run, h]
  cases Storage.textOf (s.read path f).1 with
  | error e => rfl
  | ok t =>
    dsimp only
    cases Settings.read? t <;> rfl

theorem keeps_loadCapabilities (hs : s.Lawful file?) (settings : Settings) :
    Keeps (settings.loadCapabilities s) := by
  have hload (path : Text) : Keeps (Capabilities.load s path) := by
    rw [Capabilities.load]
    refine (hs.keeps_read path).bind fun r => ?_
    split
    · split <;> exact .pure _
    · exact .pure _
    · exact .pure _
  rw [Settings.loadCapabilities]
  split
  · exact .pure _
  · refine (hload _).bind fun r => ?_
    split <;> exact .pure _

theorem keeps_loadDocument (hs : s.Lawful file?) (path : Text) : Keeps (Document.load s path) := by
  rw [Document.load]
  refine (hs.keeps_readText path).bind fun r => ?_
  split <;> exact .pure _

theorem loadDocument_fst (hs : s.Lawful file?) {path t : Text} {f : σ}
    (ht : (s.readText path f).1 = .ok t) :
    (Document.load s path f).1 = .ok (Document.read t 0) := by
  rw [Document.load, (hs.keeps_readText path).bind_run, ht]
  rfl

end Storage.Lawful

theorem Outcome.status_eq_zero_iff {o : Outcome} : o.status = 0 ↔ o.error = none := by
  cases o with
  | mk _ _ error => cases error <;> simp [status]

/-- Errors make a check fail, and so do warnings if they are denied. -/
theorem Document.failure?_validate_eq_none_iff {d : Document} {path : Text} {deny : Bool} :
    d.validate.failure? path deny = none ↔
      d.validate.errors = [] ∧ (d.validate.warnings = [] ∨ deny = false) := by
  have hvalid : d.validate.valid = d.validate.errors.isEmpty := rfl
  rw [Verdict.failure?, hvalid]
  cases d.validate.errors <;> cases d.validate.warnings <;> cases deny <;> simp

namespace Command

open Arguments (Call)

theorem keeps_check (hs : s.Lawful file?) (settings : Settings) (path : Text) (deny : Bool) :
    Keeps (check s settings path deny) := by
  rw [check]
  refine (hs.keeps_loadDocument path).bind fun r => ?_
  split
  · exact .pure _
  · refine (hs.keeps_loadCapabilities settings).bind fun r => ?_
    split <;> exact .pure _

/-- The outcome of a check is that of checking the document, however it is printed. -/
theorem status_check (hs : s.Lawful file?) {settings : Settings} {path t : Text} {deny : Bool}
    {caps : Option Capabilities} {f : σ} (ht : (s.readText path f).1 = .ok t)
    (hcaps : (settings.loadCapabilities s f).1 = .ok caps) :
    (check s settings path deny f).1.status = 0 ↔
      (Document.read t 0).validate.errors = [] ∧
        ((Document.read t 0).validate.warnings = [] ∨
          (deny || settings.denyWarnings) = false) := by
  rw [← Document.failure?_validate_eq_none_iff, Outcome.status_eq_zero_iff, check,
    (hs.keeps_loadDocument path).bind_run, hs.loadDocument_fst ht]
  dsimp only
  rw [(hs.keeps_loadCapabilities settings).bind_run, hcaps]
  rfl

theorem keeps_types (hs : s.Lawful file?) (settings : Settings) : Keeps (types s settings) := by
  rw [types]
  refine (hs.keeps_loadCapabilities settings).bind fun r => ?_
  split <;> exact .pure _

theorem keeps_format (hs : s.Lawful file?) (path : Text) {target : FormatTarget}
    (htarget : target ≠ .file) : Keeps (format s path target) := by
  rw [format]
  refine (hs.keeps_readText path).bind fun r => ?_
  split
  · exact .pure _
  · dsimp only
    split
    · split <;> exact .pure _
    · exact .pure _
    · exact absurd rfl htarget

theorem format_of_unreadable (hs : s.Lawful file?) {path : Text} {f : σ} {e : FileError}
    (he : (s.readText path f).1 = .error e) (target : FormatTarget) :
    format s path target f = (.failure (.unreadableInput e), f) := by
  rw [format, (hs.keeps_readText path).bind_run, he]
  rfl

theorem format_stdout (hs : s.Lawful file?) {path t : Text} {f : σ}
    (ht : (s.readText path f).1 = .ok t) :
    format s path .stdout f = ({ stdout := (Document.read t 0).write }, f) := by
  rw [format, (hs.keeps_readText path).bind_run, ht]
  rfl

theorem status_format_comparison (hs : s.Lawful file?) {path t : Text} {f : σ}
    (ht : (s.readText path f).1 = .ok t) :
    (format s path .comparison f).1.status = 0 ↔ (Document.read t 0).write = t := by
  rw [format, (hs.keeps_readText path).bind_run, ht]
  dsimp only
  split
  next h => exact iff_of_true rfl h
  next h => exact iff_of_false nofun h

/-- Formatting in place is one write. -/
theorem format_file (hs : s.Lawful file?) {path t : Text} {f : σ}
    (ht : (s.readText path f).1 = .ok t) :
    format s path .file f = ({}, (s.write path (Document.read t 0).write f).2) := by
  have hwrite : s.write path (Document.read t 0).write f =
      (.ok (), (s.write path (Document.read t 0).write f).2) :=
    Prod.ext (hs.write_succeeds path f _ _ (hs.readText_eq_ok_iff.mp ht)) rfl
  have hsave : (Document.read t 0).save s path f =
      (.ok (), (s.write path (Document.read t 0).write f).2) := by
    rw [Document.save, bind_run_of_run hwrite]
    rfl
  rw [format, (hs.keeps_readText path).bind_run, ht]
  dsimp only
  rw [bind_run_of_run hsave]
  rfl

theorem run_of_unloaded (hs : s.Lawful file?) {inv : Invocation} {f : σ} {e : SettingsFailure}
    (he : (Settings.load s inv.settingsPath f).1 = .error e) :
    run s inv f = (.failure (.settings e), f) := by
  rw [run, (hs.keeps_loadSettings _).bind_run, he]
  rfl

theorem run_check (hs : s.Lawful file?) {inv : Invocation} {f : σ} {settings : Settings}
    {path : Text} {deny : Bool} (haction : inv.action = .check path deny)
    (hsettings : (Settings.load s inv.settingsPath f).1 = .ok settings) :
    run s inv f = check s (settings.override inv.capabilities inv.output) path deny f := by
  rw [run, (hs.keeps_loadSettings _).bind_run, hsettings, haction]

theorem run_format (hs : s.Lawful file?) {inv : Invocation} {f : σ} {settings : Settings}
    {path : Text} {target : FormatTarget} (haction : inv.action = .format path target)
    (hsettings : (Settings.load s inv.settingsPath f).1 = .ok settings) :
    run s inv f = format s path target f := by
  rw [run, (hs.keeps_loadSettings _).bind_run, hsettings, haction]

/-- A command leaves all as it is unless it formats in place. -/
theorem keeps_run (hs : s.Lawful file?) {inv : Invocation}
    (haction : ∀ path, inv.action ≠ .format path .file) : Keeps (run s inv) := by
  rw [run]
  refine (hs.keeps_loadSettings _).bind fun r => ?_
  split
  · exact .pure _
  · dsimp only
    cases hinv : inv.action with
    | check path deny => exact keeps_check hs _ path deny
    | format path target =>
      have htarget : target ≠ .file := by
        rintro rfl
        exact haction path hinv
      exact keeps_format hs path htarget
    | types => exact keeps_types hs _
    | fields type all => exact .pure _

/-- Formatting in place fails and leaves all as it was, or it is one write. -/
theorem run_format_file_cases (hs : s.Lawful file?) {inv : Invocation} {path : Text}
    (haction : inv.action = .format path .file) (f : σ) :
    (run s inv f).1.status = 1 ∧ (run s inv f).2 = f ∧
        ¬((∃ settings, (Settings.load s inv.settingsPath f).1 = .ok settings) ∧
          ∃ t, (s.readText path f).1 = .ok t) ∨
      ∃ settings t, (Settings.load s inv.settingsPath f).1 = .ok settings ∧
        (s.readText path f).1 = .ok t ∧
        run s inv f = ({}, (s.write path (Document.read t 0).write f).2) := by
  cases hsettings : (Settings.load s inv.settingsPath f).1 with
  | error e =>
    rw [run_of_unloaded hs hsettings]
    exact .inl ⟨rfl, rfl, by simp⟩
  | ok settings =>
    rw [run_format hs haction hsettings]
    cases ht : (s.readText path f).1 with
    | error e =>
      rw [format_of_unreadable hs ht]
      exact .inl ⟨rfl, rfl, by simp⟩
    | ok t => exact .inr ⟨settings, t, rfl, rfl, format_file hs ht⟩

theorem call_of_refused {env : Environment} {args : List Text} {why : Refusal}
    (h : Arguments.read env args = .error why) (f : σ) :
    call s env args f = (.refused why, f) := by
  rw [call, h]
  rfl

theorem call_of_read {env : Environment} {args : List Text} {inv : Invocation}
    (h : Arguments.read env args = .ok inv) (f : σ) :
    call s env args f = (.ran (run s inv f).1, (run s inv f).2) := by
  rw [call, h]
  rfl

/-- What a call does to the files that it finds, and when it succeeds. -/
structure Contract (s : Storage (StateM σ)) (file? : σ → Text → Option κ) (env : Environment)
    (args : List Text) (f : σ) : Prop where
  /-- Arguments that spell nothing that can be asked for are refused, and nothing is touched. -/
  of_unspelled : (∀ c : Call, c.Spells env args → ∀ action, ¬c.Asks action) →
    ∃ why, call s env args f = (.refused why, f)
  /-- Only `fmt` without `--check` and `--stdout` changes anything, and only if it succeeds. -/
  of_changed : (call s env args f).2 ≠ f →
    (call s env args f).1.status = 0 ∧ ∃ (c : Call) (path : Text), c.Spells env args ∧
      c.name = .format ∧ c.operands = [path] ∧ .stdout ∉ c.flags ∧ .compare ∉ c.flags
  /-- A call that fails leaves all as it was. -/
  of_failed : (call s env args f).1.status ≠ 0 → (call s env args f).2 = f
  /-- Formatting in place succeeds if the settings can be loaded and the file can be read. -/
  format_succeeds : ∀ (c : Call) (path : Text), c.Spells env args → c.Asks (.format path .file) →
    ((call s env args f).1.status = 0 ↔
      (∃ settings, (Settings.load s c.settingsPath f).1 = .ok settings) ∧
        ∃ t, (s.readText path f).1 = .ok t)
  /-- The file then holds the canonical form of its old text, and no other file is touched. -/
  format_effect : ∀ (c : Call) (path : Text), c.Spells env args → c.Asks (.format path .file) →
    (call s env args f).1.status = 0 →
    ∃ t, (s.readText path f).1 = .ok t ∧
      (∀ other, file? f other = file? f path →
        (s.read other (call s env args f).2).1 = .ok (some (Document.read t 0).write)) ∧
      ∀ other, file? f other ≠ file? f path →
        (s.read other (call s env args f).2).1 = (s.read other f).1
  /-- That form is what is printed with `--stdout`, with the same settings and environment. -/
  format_prints : ∀ (c : Call) (path : Text), c.Spells env args → c.Asks (.format path .file) →
    (call s env args f).1.status = 0 →
    ∀ (c' : Call) (args' : List Text), c'.Spells env args' → c'.settingsPath = c.settingsPath →
      c'.name = .format → c'.operands = [path] → .stdout ∈ c'.flags → .compare ∉ c'.flags →
      ∃ t, (s.readText path f).1 = .ok t ∧
        call s env args' f = (.ran { stdout := (Document.read t 0).write }, f)
  /-- The file is found formatted from then on by `--check`, with the same settings and
  environment. -/
  format_accepted : ∀ (c : Call) (path : Text), c.Spells env args → c.Asks (.format path .file) →
    (call s env args f).1.status = 0 → file? f c.settingsPath ≠ file? f path →
    ∀ (c' : Call) (args' : List Text), c'.Spells env args' → c'.settingsPath = c.settingsPath →
      c'.name = .format → c'.operands = [path] → .stdout ∉ c'.flags → .compare ∈ c'.flags →
      (call s env args' (call s env args f).2).1.status = 0
  /-- A check of a file that can be read fails for errors, and for warnings that are denied. -/
  check_succeeds : ∀ (c : Call) (path t : Text) (settings : Settings)
    (caps : Option Capabilities), c.Spells env args → c.name = .check → c.operands = [path] →
    (s.readText path f).1 = .ok t → (Settings.load s c.settingsPath f).1 = .ok settings →
    ((settings.override (c.capabilities env) (c.output env)).loadCapabilities s f).1 = .ok caps →
    ((call s env args f).1.status = 0 ↔
      (Document.read t 0).validate.errors = [] ∧
        ((Document.read t 0).validate.warnings = [] ∨
          .denyWarnings ∉ c.flags ∧ settings.denyWarnings = false))

/-- A call that changes anything is one that succeeds in formatting in place. -/
theorem formats_of_changed (hs : s.Lawful file?) {env : Environment} {args : List Text} {f : σ}
    (h : (call s env args f).2 ≠ f) :
    (call s env args f).1.status = 0 ∧
      ∃ inv path, Arguments.read env args = .ok inv ∧ inv.action = .format path .file := by
  cases hread : Arguments.read env args with
  | error why =>
    rw [call_of_refused hread] at h
    exact absurd rfl h
  | ok inv =>
    rw [call_of_read hread] at h ⊢
    by_cases haction : ∃ path, inv.action = .format path .file
    · obtain ⟨path, haction⟩ := haction
      refine ⟨?_, inv, path, rfl, haction⟩
      rcases run_format_file_cases hs haction f with ⟨-, hkept, -⟩ | ⟨_, _, -, -, hrun⟩
      · exact absurd hkept h
      · rw [hrun]
        rfl
    · exact absurd (keeps_run hs (not_exists.mp haction) f) h

theorem call_format_file (hs : s.Lawful file?) {env : Environment} {args : List Text} {c : Call}
    {path : Text} {f : σ} (hc : c.Spells env args) (ha : c.Asks (.format path .file))
    (hstatus : (call s env args f).1.status = 0) :
    ∃ settings t, (Settings.load s c.settingsPath f).1 = .ok settings ∧
      (s.readText path f).1 = .ok t ∧
      call s env args f = (.ran {}, (s.write path (Document.read t 0).write f).2) := by
  have haction : (c.invocation env (.format path .file)).action = .format path .file := rfl
  rw [call_of_read (hc.read ha)] at hstatus ⊢
  rcases run_format_file_cases hs haction f with ⟨hfails, -, -⟩ |
    ⟨settings, t, hsettings, ht, hrun⟩
  · rw [Conclusion.status, hfails] at hstatus
    cases hstatus
  · exact ⟨settings, t, hsettings, ht, by rw [hrun]⟩

/-- Only formatting in place writes, and what it leaves is formatted. -/
theorem call_contract (hs : s.Lawful file?) (env : Environment) (args : List Text) (f : σ) :
    Contract s file? env args f where
  of_unspelled hnone := by
    cases hread : Arguments.read env args with
    | error why => exact ⟨why, call_of_refused hread f⟩
    | ok inv =>
      obtain ⟨c, hc, ha, -⟩ := Arguments.read_eq_ok_iff.mp hread
      exact absurd ha (hnone c hc _)
  of_changed hchanged := by
    obtain ⟨hstatus, inv, path, hread, haction⟩ := formats_of_changed hs hchanged
    obtain ⟨c, hc, ha, -⟩ := Arguments.read_eq_ok_iff.mp hread
    rw [haction] at ha
    exact ⟨hstatus, c, path, hc, ha⟩
  of_failed hstatus := by
    by_contra hchanged
    exact hstatus (formats_of_changed hs hchanged).1
  format_succeeds c path hc ha := by
    have haction : (c.invocation env (.format path .file)).action = .format path .file := rfl
    rw [call_of_read (hc.read ha)]
    rcases run_format_file_cases hs haction f with ⟨hfails, -, hnone⟩ |
      ⟨settings, t, hsettings, ht, hrun⟩
    · exact iff_of_false (by simp [Conclusion.status, hfails]) hnone
    · rw [hrun]
      exact iff_of_true rfl ⟨⟨settings, hsettings⟩, t, ht⟩
  format_effect c path hc ha hstatus := by
    obtain ⟨-, t, -, ht, hcall⟩ := call_format_file hs hc ha hstatus
    rw [hcall]
    have hfile := hs.readText_eq_ok_iff.mp ht
    exact ⟨t, ht, hs.read_written path f _ _ hfile, hs.read_elsewhere path f _ _ hfile⟩
  format_prints c path hc ha hstatus c' args' hc' hpath hname hone hout hcompare := by
    obtain ⟨settings, t, hsettings, ht, -⟩ := call_format_file hs hc ha hstatus
    have ha' : c'.Asks (.format path .stdout) := ⟨hname, hone, hout, hcompare⟩
    rw [← hpath] at hsettings
    rw [call_of_read (hc'.read ha'), run_format hs rfl hsettings, format_stdout hs ht]
    exact ⟨t, ht, rfl⟩
  format_accepted c path hc ha hstatus hapart c' args' hc' hpath hname hone hout hcompare := by
    obtain ⟨settings, t, hsettings, ht, hcall⟩ := call_format_file hs hc ha hstatus
    have ha' : c'.Asks (.format path .comparison) := ⟨hname, hone, hout, hcompare⟩
    have hfile := hs.readText_eq_ok_iff.mp ht
    rw [hcall, call_of_read (hc'.read ha')]
    -- The settings are in another file, so the second call finds what the first one found.
    have hsettings' : (Settings.load s c'.settingsPath
        (s.write path (Document.read t 0).write f).2).1 = .ok settings := by
      rw [hpath, hs.loadSettings_congr (hs.read_elsewhere path f _ _ hfile _ hapart), hsettings]
    have ht' : (s.readText path (s.write path (Document.read t 0).write f).2).1 =
        .ok (Document.read t 0).write :=
      hs.readText_eq_ok_iff.mpr (hs.read_written path f _ _ hfile path rfl)
    rw [Conclusion.status, run_format hs rfl hsettings', status_format_comparison hs ht']
    exact (Document.tidy_read t 0).legible.write_settles 0
  check_succeeds c path t settings caps hc hname hone ht hsettings hcaps := by
    have ha : c.Asks (.check path (decide (.denyWarnings ∈ c.flags))) :=
      ⟨hname, hone, decide_eq_true_iff⟩
    rw [call_of_read (hc.read ha), Conclusion.status, run_check hs rfl hsettings]
    dsimp only [Call.invocation]
    rw [status_check hs ht hcaps, Bool.or_eq_false_iff, decide_eq_false_iff_not]
    rfl

theorem call_contract_folder :
    let text := "[reticulum]\nautoconnect_discovered_interfaces=2".toList
    let files : Folder :=
      [⟨"config".toList, some text⟩,
        ⟨".rnsconf.json".toList, some "\x7b\"deny_warnings\": true\x7d".toList⟩]
    let check := ["check".toList, "config".toList]
    let rewrite := ["fmt".toList, "config".toList]
    let print := ["--verbose".toList, "fmt".toList, "-vs".toList, "config".toList]
    let compare := ["fmt".toList, "--check".toList, "--".toList, "config".toList]
    (call Folder.storage {} check files).1.status ≠ 0 ∧
      (call Folder.storage {} compare files).1.status ≠ 0 ∧
      call Folder.storage {} print files =
        (.ran { stdout := (Document.read text 0).write }, files) ∧
      (call Folder.storage {} rewrite files).1.status = 0 ∧
      (call Folder.storage {} compare (call Folder.storage {} rewrite files).2).1.status = 0 := by
  intro text files check rewrite print compare
  let path := "config".toList
  let checking : Call := ⟨[], .check, [.operand path], none⟩
  let rewriting : Call := ⟨[], .format, [.operand path], none⟩
  let printing : Call :=
    ⟨[.flag .verbose], .format, [.cluster [.verbose, .stdout], .operand path], none⟩
  let comparing : Call := ⟨[], .format, [.flag .compare], some [path]⟩
  have hsettings : (Settings.load Folder.storage Arguments.defaultSettingsPath files).1 =
      .ok { denyWarnings := true } :=
    Folder.lawful_storage.loadSettings_fst rfl (by decide +kernel)
  have hrewriting : rewriting.Spells {} rewrite := by decide +kernel
  have hasks : rewriting.Asks (.format path .file) := ⟨rfl, rfl, by decide, by decide⟩
  have hrewrite := call_contract Folder.lawful_storage {} rewrite files
  have hsucceeds : (call Folder.storage {} rewrite files).1.status = 0 :=
    (hrewrite.format_succeeds rewriting path hrewriting hasks).mpr ⟨⟨_, hsettings⟩, text, rfl⟩
  refine ⟨?_, by decide +kernel, ?_, hsucceeds, ?_⟩
  · rw [Ne, (call_contract Folder.lawful_storage {} check files).check_succeeds checking path text
      { denyWarnings := true } none (by decide +kernel) rfl rfl rfl hsettings rfl]
    decide +kernel
  · obtain ⟨t, ht, hprint⟩ := hrewrite.format_prints rewriting path hrewriting hasks hsucceeds
      printing print (by decide +kernel) rfl rfl rfl (by decide) (by decide)
    cases ht
    exact hprint
  · exact hrewrite.format_accepted rewriting path hrewriting hasks hsucceeds (by decide +kernel)
      comparing compare (by decide +kernel) rfl rfl rfl (by decide) (by decide)

end Command

end GatewayConfig
