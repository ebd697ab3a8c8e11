import GatewayConfig.Proofs.Document.Content

/-! # The spacing of a written document

A written document is made of headers and of entries below them. Main statement: whatever sections
and interfaces there are, the text ends in one line break, no line ends in a blank, and an empty
line stands above each header but the first and nowhere else.
-/

namespace GatewayConfig
open Text

/-- A line of a written document by what it is there for. -/
inductive Row
  | header (line : Text)
  | entry (line : Text)
  /-- An empty line. -/
  | gap
  deriving DecidableEq, Repr

namespace Row

def text : Row → Text
  | header line | entry line => line
  | gap => []

def header? : Row → Option Text
  | header line => some line
  | entry _ | gap => none

def ofBlock : List Text → List Row
  | [] => []
  | first :: rest => header first :: rest.map entry

def withGap : Row → List Row
  | header line => [gap, header line]
  | row => [row]

/-- The rows with a gap above each header, but for the first row. -/
def spaced : List Row → List Row
  | [] => []
  | first :: rest => first :: rest.flatMap withGap

theorem map_text_ofBlock (block : List Text) : (ofBlock block).map text = block := by
  cases block with
  | nil => rfl
  | cons first rest =>
    rw [ofBlock, List.map_cons, List.map_map]
    exact congrArg (first :: ·) (List.map_id rest)

theorem filterMap_header?_ofBlock {block : List Text} (h : block ≠ []) :
    (ofBlock block).filterMap header? = [block.headD []] := by
  obtain ⟨first, rest, rfl⟩ := List.exists_cons_of_ne_nil h
  have hrest : (rest.map entry).filterMap header? = [] := by
    simp [header?]
  have hfirst : (header first).header? = some first := rfl
  rw [ofBlock, List.filterMap_cons_some hfirst, hrest, List.headD_cons]

theorem flatMap_withGap_ofBlock {block : List Text} (h : block ≠ []) :
    (ofBlock block).flatMap withGap = gap :: ofBlock block := by
  obtain ⟨first, rest, rfl⟩ := List.exists_cons_of_ne_nil h
  have hrest : (rest.map entry).flatMap withGap = rest.map entry := by
    rw [List.flatMap_map, List.map_eq_flatMap]
    rfl
  rw [ofBlock, List.flatMap_cons, hrest]
  rfl

theorem gap_cons_spaced_flatMap {blocks : List (List Text)} (hne : blocks ≠ [])
    (h : ∀ block ∈ blocks, block ≠ []) :
    gap :: spaced (blocks.flatMap ofBlock) = blocks.flatMap fun block => gap :: ofBlock block := by
  obtain ⟨block, rest, rfl⟩ := List.exists_cons_of_ne_nil hne
  obtain ⟨first, lines, rfl⟩ := List.exists_cons_of_ne_nil (h block List.mem_cons_self)
  have hgap : gap :: spaced (((first :: lines) :: rest).flatMap ofBlock) =
      (((first :: lines) :: rest).flatMap ofBlock).flatMap withGap := rfl
  rw [hgap, List.flatMap_assoc]
  exact List.flatMap_congr fun block hblock => flatMap_withGap_ofBlock (h block hblock)

/-- The lines of blocks, each with an empty line above it, are those of the spaced rows below one
more empty line. -/
theorem map_text_spaced {blocks : List (List Text)} (hne : blocks ≠ [])
    (h : ∀ block ∈ blocks, block ≠ []) :
    [] :: (spaced (blocks.flatMap ofBlock)).map text = blocks.flatMap ([] :: ·) := by
  have hgap : ([] : Text) = text gap := rfl
  rw [hgap, ← List.map_cons, gap_cons_spaced_flatMap hne h, List.map_flatMap]
  refine List.flatMap_congr fun block _ => ?_
  rw [List.map_cons, map_text_ofBlock]

theorem filterMap_header?_spaced (rows : List Row) :
    (spaced rows).filterMap header? = rows.filterMap header? := by
  have hgap (row : Row) : (withGap row).filterMap header? = (header? row).toList := by
    cases row <;> rfl
  cases rows with
  | nil => rfl
  | cons first rest =>
    rw [spaced, List.filterMap_cons, List.filterMap_cons, List.filterMap_flatMap]
    simp only [hgap, List.filterMap_eq_flatMap_toList]

theorem mem_spaced {rows : List Row} {row : Row} (h : row ∈ spaced rows) :
    row = gap ∨ row ∈ rows := by
  cases rows with
  | nil => exact absurd h List.not_mem_nil
  | cons first rest =>
    rcases List.mem_cons.mp h with rfl | h
    · exact .inr List.mem_cons_self
    · obtain ⟨row', hrow', h⟩ := List.mem_flatMap.mp h
      have hcases : row = gap ∨ row = row' := by
        cases row' with
        | header line => simpa [withGap] using h
        | entry line => exact .inr (List.mem_singleton.mp h)
        | gap => exact .inl (List.mem_singleton.mp h)
      rcases hcases with rfl | rfl
      · exact .inl rfl
      · exact .inr (List.mem_cons_of_mem _ hrow')

theorem getLast?_spaced (rows : List Row) : (spaced rows).getLast? = rows.getLast? := by
  cases rows with
  | nil => rfl
  | cons first rest =>
    rw [spaced]
    induction rest generalizing first with
    | nil => rfl
    | cons row rest ih =>
      rw [List.getLast?_cons_cons, ← ih row]
      cases row <;> simp [withGap]

/-- Of two neighbours, the one above is blank exactly if the one below is a header. -/
def Adjoins (above below : Row) : Prop :=
  blank above.text = true ↔ below.header?.isSome = true

section Shown

variable {rows : List Row} (hshows : ∀ row ∈ rows, blank row.text = false)
include hshows

theorem isChain_spaced : (spaced rows).IsChain Adjoins := by
  cases rows with
  | nil => exact .nil
  | cons first rest =>
    rw [spaced]
    induction rest generalizing first with
    | nil => exact .singleton first
    | cons row rest ih =>
      obtain ⟨hfirst, hrest⟩ := List.forall_mem_cons.mp hshows
      have hchain := ih row hrest
      have hadjoins {below : Row} (hbelow : below.header? = none) : Adjoins first below := by
        simp [Adjoins, hfirst, hbelow]
      have hgap (line : Text) : Adjoins gap (header line) := iff_of_true rfl rfl
      cases row with
      | header line => exact .cons_cons (hadjoins rfl) (.cons_cons (hgap line) hchain)
      | entry line => exact .cons_cons (hadjoins rfl) hchain
      | gap => exact absurd (hrest gap List.mem_cons_self) (by decide)

/-- Above each row but the first there is one that adjoins it. -/
theorem exists_adjoins_above {k : Nat} {below : Row} (h : (spaced rows)[k + 1]? = some below) :
    ∃ above, (spaced rows)[k]? = some above ∧ Adjoins above below := by
  obtain ⟨hk, rfl⟩ := List.getElem?_eq_some_iff.mp h
  exact ⟨_, List.getElem?_eq_getElem (Nat.lt_of_succ_lt hk), (isChain_spaced hshows).getElem k hk⟩

theorem eq_gap_of_blank {row : Row} (hrow : row ∈ spaced rows) (hblank : blank row.text = true) :
    row = gap := by
  refine (mem_spaced hrow).resolve_right fun hmem => ?_
  rw [hshows row hmem] at hblank
  cases hblank

theorem exists_head?_spaced (hne : rows ≠ []) :
    ∃ row, (spaced rows).head? = some row ∧ blank row.text = false := by
  obtain ⟨first, rest, rfl⟩ := List.exists_cons_of_ne_nil hne
  exact ⟨first, rfl, hshows first List.mem_cons_self⟩

theorem exists_getLast?_spaced (hne : rows ≠ []) :
    ∃ row, (spaced rows).getLast? = some row ∧ blank row.text = false := by
  refine ⟨rows.getLast hne, ?_, hshows _ (List.getLast_mem hne)⟩
  rw [getLast?_spaced, List.getLast?_eq_getLast_of_ne_nil hne]

theorem blank_below {k : Nat} {above below : Row} (habove : (spaced rows)[k]? = some above)
    (hbelow : (spaced rows)[k + 1]? = some below) (hblank : blank above.text = true) :
    blank below.text = false := by
  obtain ⟨above', habove', hadjoins⟩ := exists_adjoins_above hshows hbelow
  obtain rfl := Option.some_inj.mp (habove.symm.trans habove')
  have hheader := hadjoins.mp hblank
  by_contra hbelow'
  rw [Bool.not_eq_false] at hbelow'
  rw [eq_gap_of_blank hshows (List.mem_of_getElem? hbelow) hbelow'] at hheader
  cases hheader

theorem exists_gap_above (hne : rows ≠ []) {k : Nat} {line : Text} (hk : 0 < k)
    (h : (spaced rows)[k]? = some (header line)) :
    ∃ j above, k = j + 2 ∧ (spaced rows)[j]? = some above ∧ blank above.text = false ∧
      (spaced rows)[j + 1]? = some gap := by
  obtain ⟨k, rfl⟩ := Nat.exists_eq_add_one_of_ne_zero hk.ne'
  obtain ⟨between, hbetween, hadjoins⟩ := exists_adjoins_above hshows h
  obtain rfl := eq_gap_of_blank hshows (List.mem_of_getElem? hbetween) (hadjoins.mpr rfl)
  cases k with
  | zero =>
    -- The first row is not a gap.
    obtain ⟨row, hrow, hshown⟩ := exists_head?_spaced hshows hne
    rw [List.head?_eq_getElem?, hbetween] at hrow
    cases hrow
    cases hshown
  | succ j =>
    obtain ⟨above, habove, hadjoins⟩ := exists_adjoins_above hshows hbetween
    refine ⟨j, above, rfl, habove, ?_, hbetween⟩
    by_contra hblank
    rw [Bool.not_eq_false] at hblank
    cases hadjoins.mp hblank

theorem exists_header_below (hne : rows ≠ []) {k : Nat} {row : Row}
    (hrow : (spaced rows)[k]? = some row) (hblank : blank row.text = true) :
    ∃ line, (spaced rows)[k + 1]? = some (header line) := by
  cases hbelow : (spaced rows)[k + 1]? with
  | none =>
    -- The last row is not a gap.
    obtain ⟨last, hlast, hshown⟩ := exists_getLast?_spaced hshows hne
    have hk : k = (spaced rows).length - 1 := by
      have hlength := (List.getElem?_eq_some_iff.mp hrow).1
      rw [List.getElem?_eq_none_iff] at hbelow
      omega
    rw [List.getLast?_eq_getElem?, ← hk, hrow] at hlast
    cases hlast
    rw [hblank] at hshown
    cases hshown
  | some below =>
    obtain ⟨above, habove, hadjoins⟩ := exists_adjoins_above hshows hbelow
    obtain rfl := Option.some_inj.mp (hrow.symm.trans habove)
    have hheader := hadjoins.mp hblank
    cases below with
    | header line => exact ⟨line, rfl⟩
    | entry _ | gap => cases hheader

end Shown

/-- Rows that show at both ends and have one gap above each header below the first row, and no
other. -/
structure WellSpaced (rows : List Row) : Prop where
  first_shows : ∃ row, rows.head? = some row ∧ blank row.text = false
  last_shows : ∃ row, rows.getLast? = some row ∧ blank row.text = false
  ends_trimmed : ∀ row ∈ rows, trimEnd row.text = row.text
  blanks_apart : ∀ k above below, rows[k]? = some above → rows[k + 1]? = some below →
    blank above.text = true → blank below.text = false
  header_spaced : ∀ k line, 0 < k → rows[k]? = some (header line) →
    ∃ j above, k = j + 2 ∧ rows[j]? = some above ∧ blank above.text = false ∧
      rows[j + 1]? = some gap
  blank_announces : ∀ k row, rows[k]? = some row → blank row.text = true →
    ∃ line, rows[k + 1]? = some (header line)

theorem wellSpaced_spaced {rows : List Row} (hne : rows ≠ [])
    (hshows : ∀ row ∈ rows, blank row.text = false)
    (htrimmed : ∀ row ∈ rows, trimEnd row.text = row.text) : WellSpaced (spaced rows) where
  first_shows := exists_head?_spaced hshows hne
  last_shows := exists_getLast?_spaced hshows hne
  ends_trimmed := by
    intro row hrow
    rcases mem_spaced hrow with rfl | hrow
    · rfl
    · exact htrimmed row hrow
  blanks_apart := fun _ _ _ => blank_below hshows
  header_spaced := fun _ _ => exists_gap_above hshows hne
  blank_announces := fun _ _ => exists_header_below hshows hne

end Row

/-- A text is laid out with headers: it ends in one line break, and its lines are rows among which
the headers are those given. Empty lines stand above headers and nowhere else. -/
structure LaidOut (t : Text) (headers : List Text) (rows : List Row) : Prop
    extends Row.WellSpaced rows where
  lines_eq : lines t = rows.map Row.text ++ [[]]
  headers_eq : rows.filterMap Row.header? = headers
  one_newline : ∃ u, t = u ++ ['\n'] ∧ u.getLast? ≠ some '\n'

theorem cons_flatMap_concat {α : Type*} (a : α) (ls : List (List α)) :
    a :: ls.flatMap (· ++ [a]) = ls.flatMap (a :: ·) ++ [a] := by
  induction ls with
  | nil => rfl
  | cons l ls ih => simp [ih]

/-- Blocks of lines that show, each with an empty line below it, are laid out with their first
lines. -/
theorem laidOut_of_blocks {t : Text} {blocks : List (List Text)} (hne : blocks ≠ [])
    (hblocks : ∀ block ∈ blocks, block ≠ [])
    (hshows : ∀ block ∈ blocks, ∀ l ∈ block, blank l = false)
    (htrimmed : ∀ block ∈ blocks, ∀ l ∈ block, trimEnd l = l)
    (hlines : lines (t ++ ['\n']) = blocks.flatMap (· ++ [[]])) :
    LaidOut (t ++ ['\n']) (blocks.map (·.headD [])) (Row.spaced (blocks.flatMap Row.ofBlock)) := by
  have hmem {row : Row} (hrow : row ∈ blocks.flatMap Row.ofBlock) :
      ∃ block ∈ blocks, row.text ∈ block := by
    obtain ⟨block, hblock, hrow⟩ := List.mem_flatMap.mp hrow
    refine ⟨block, hblock, ?_⟩
    rw [← Row.map_text_ofBlock block]
    exact List.mem_map_of_mem hrow
  have hrows : blocks.flatMap Row.ofBlock ≠ [] := by
    obtain ⟨block, rest, rfl⟩ := List.exists_cons_of_ne_nil hne
    obtain ⟨first, lines, rfl⟩ := List.exists_cons_of_ne_nil (hblocks block List.mem_cons_self)
    exact List.cons_ne_nil _ _
  have hspaced := Row.wellSpaced_spaced hrows
    (fun row hrow =>
      have ⟨block, hblock, hl⟩ := hmem hrow
      hshows block hblock _ hl)
    (fun row hrow =>
      have ⟨block, hblock, hl⟩ := hmem hrow
      htrimmed block hblock _ hl)
  have hlines' : lines (t ++ ['\n']) =
      (Row.spaced (blocks.flatMap Row.ofBlock)).map Row.text ++ [[]] := by
    apply List.cons_injective (a := [])
    rw [hlines, cons_flatMap_concat, ← List.cons_append, Row.map_text_spaced hne hblocks]
  refine { hspaced with lines_eq := hlines', headers_eq := ?_, one_newline := ⟨t, rfl, ?_⟩ }
  · rw [Row.filterMap_header?_spaced, List.filterMap_flatMap, List.map_eq_flatMap]
    apply List.flatMap_congr
    exact fun block hblock => Row.filterMap_header?_ofBlock (hblocks block hblock)
  · intro hlast
    obtain ⟨u, rfl⟩ := List.getLast?_eq_some_iff.mp hlast
    obtain ⟨row, hrow, hshown⟩ := hspaced.last_shows
    have hempty : lines ((u ++ ['\n']) ++ ['\n']) = lines u ++ [[]] ++ [[]] := by
      rw [lines_append_newline, lines_append_newline]
      rfl
    rw [hempty] at hlines'
    have hend := congrArg List.getLast? (List.append_cancel_right hlines')
    rw [List.getLast?_map, hrow, List.getLast?_concat, Option.map_some, Option.some_inj] at hend
    rw [← hend] at hshown
    cases hshown

theorem Text.Bracketed.blank_eq {t : Text} (h : Bracketed t) : blank t = false := by
  rw [blank_eq_false_iff, h.trim_eq]
  rintro rfl
  cases h.1

theorem Entry.blank_line (e : Entry) : blank e.line = false := by
  rw [blank_eq_false_iff, ne_eq, ← List.head?_eq_none_iff, head?_trim_eq, List.find?_eq_none]
  intro h
  have hequals : '=' ∈ e.line := by
    rw [line_eq]
    simp
  exact h '=' hequals (by decide)

/-- Every line of an interface's block is bracketed or an entry's. -/
theorem Interface.mem_block {i : Interface} {position : Nat} {l : Text}
    (h : l ∈ i.block position) : Bracketed l ∨ ∃ e : Entry, e.line = l := by
  rw [block_eq] at h
  rcases List.mem_cons.mp h with rfl | h
  · exact .inl (bracketed_iff.mpr ⟨"[".toList ++ i.title position ++ "]".toList, by simp⟩)
  · obtain ⟨e, -, -, he⟩ := Entries.mem_lines.mp h
    exact .inr ⟨e, he⟩

namespace Document

theorem mem_block {d : Document} {block : List Text} (hblock : block ∈ d.blocks) {l : Text}
    (h : l ∈ block) : Bracketed l ∨ ∃ e : Entry, e.line = l := by
  obtain ⟨name, -, hblock⟩ := mem_blocks hblock
  rcases mem_shownBlocks hblock with rfl | ⟨i, -, k, rfl⟩
  · rcases List.mem_cons.mp h with rfl | h
    · exact .inl (bracketed_iff.mpr ⟨name, rfl⟩)
    · obtain ⟨e, -, -, he⟩ := Entries.mem_lines.mp h
      exact .inr ⟨e, he⟩
  · exact Interface.mem_block h

structure Unbroken (d : Document) : Prop where
  names_no_newline : ∀ name ∈ d.order, '\n' ∉ name
  entries_no_newline : ∀ name ∈ d.writingOrder, ∀ e ∈ d.entries name,
    '\n' ∉ e.key ∧ '\n' ∉ e.value
  interfaces_unbroken : ∀ i ∈ d.interfaces, i.Unbroken

theorem Unbroken.block_no_newline {d : Document} (h : d.Unbroken) :
    ∀ block ∈ d.blocks, ∀ l ∈ block, '\n' ∉ l := by
  intro block hblock l hl
  obtain ⟨name, hname, hblock⟩ := mem_blocks hblock
  rcases mem_shownBlocks hblock with rfl | ⟨i, hi, k, rfl⟩
  · rcases List.mem_cons.mp hl with rfl | hl
    · have hnewline : '\n' ∉ name := by
        rcases List.mem_append.mp hname with hname | hname
        · exact h.names_no_newline name hname
        · exact (WritableName.of_reserved (List.mem_filter.mp hname).1).no_newline
      simp [sectionHeaderLine, hnewline]
    · obtain ⟨e, he, -, rfl⟩ := Entries.mem_lines.mp hl
      obtain ⟨hkey, hvalue⟩ := h.entries_no_newline name hname e he
      exact Entry.newline_not_mem_line hkey hvalue
  · exact (h.interfaces_unbroken i hi).block_no_newline k l hl

/-- The headers written for a section: its own if it shows, and for that of the interfaces one for
each of them. -/
def headersOf (d : Document) (name : Text) : List Text :=
  if d.shows name then
    sectionHeaderLine name :: if name = interfacesSection then
      d.interfaces.mapIdx fun k i => "[[".toList ++ i.title k ++ "]]".toList else []
  else []

def headers (d : Document) : List Text := d.writingOrder.flatMap d.headersOf

def rows (d : Document) : List Row := Row.spaced (d.blocks.flatMap Row.ofBlock)

theorem map_headD_blocks (d : Document) : d.blocks.map (·.headD []) = d.headers := by
  rw [blocks, List.map_flatMap, headers]
  refine List.flatMap_congr fun name _ => ?_
  rw [blocksOf_eq, headersOf]
  split
  next =>
    rw [shownBlocks, List.map_cons]
    split
    next =>
      rw [List.mapIdx_eq_zipIdx_map, List.map_map, List.mapIdx_eq_zipIdx_map]
      rfl
    next => rfl
  next => rfl

/-- Whatever sections and interfaces a document has, its text is laid out with their headers. -/
theorem laidOut_write {d : Document} (h : d.Unbroken) : LaidOut d.write d.headers d.rows := by
  have hlines : lines d.write = d.blocks.flatMap (· ++ [[]]) := by
    rw [lines_write, linesOf]
    refine List.flatMap_congr fun block hblock => ?_
    rw [flatMap_lines (h.block_no_newline block hblock)]
  rw [← map_headD_blocks]
  refine laidOut_of_blocks d.blocks_not_empty d.blocks_ne_nil (fun block hblock l hl => ?_)
    (fun block hblock l hl => ?_) hlines
  · rcases mem_block hblock hl with hl | ⟨e, rfl⟩
    · exact hl.blank_eq
    · exact e.blank_line
  · rcases mem_block hblock hl with hl | ⟨e, rfl⟩
    · rw [← hl.trim_eq, trimEnd_trim]
    · exact trimEnd_trimEnd _

theorem laidOut_write_repeated :
    let i : Interface :=
      { Interface.new " ".toList [] with
        settings := [⟨" ".toList, "a".toList⟩, ⟨"[b".toList, "c] ".toList⟩] }
    let d : Document :=
      ⟨[⟨interfacesSection, [⟨" ".toList, "d".toList⟩]⟩, ⟨"peers".toList, []⟩],
        [interfacesSection, "peers".toList, rootSection, interfacesSection],
        [⟨⟨7⟩, i⟩, ⟨⟨2⟩, i⟩]⟩
    d.Unbroken ∧ LaidOut d.write d.headers d.rows := by
  intro i d
  have hi : i.Unbroken := ⟨by decide, by decide, by decide⟩
  have hinterfaces : ∀ i' ∈ d.interfaces, i'.Unbroken :=
    List.forall_mem_cons.mpr ⟨hi, List.forall_mem_singleton.mpr hi⟩
  have hd : d.Unbroken := ⟨by decide, by decide, hinterfaces⟩
  exact ⟨hd, laidOut_write hd⟩

end Document

end GatewayConfig
