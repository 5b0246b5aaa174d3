import PackageAtlas.Proofs.Declaration.Extents
import PackageAtlas.Proofs.Source.Overlap
import PackageAtlas.Proofs.Source.Pages
import PackageAtlas.Proofs.Tool.Steps

namespace PackageAtlas.Tool

open Declaration (Occurrence Record mem_records_iff records signatureAt)
open Declaration.Occurrence (IsChild)
open Relation (ReflTransGen)
open Source (Window excerpt numbered)
open Syntax (Nested Node)
open Text (joinLines unifyBreaks)

/-!
# Lines that are read

What is read of a file, line by line:

* `pages_make_text`: page by page, all of it is read, and no line twice;
* `ranged_reads_show_window`: what is read of a window, which may be more than it overlaps, as
  `ranged_read_beyond_overlap` shows;
* `signatures_start_first_lines`: the signature of a declaration starts the first of its lines;
* `declarations_keep_their_lines`: the lines of a declaration are those on which it has text.
-/

variable {s : Session} {path text file : String} {bytes : ByteArray} {root : Node} {r : Record}

/-! ### Pages -/

theorem yields_readText_of_read (h : s.fs.read s.here path = .ok bytes) :
    Yields (readText path) s (Text.Utf8.decodeBytes bytes) s :=
  yields_readText.mpr ⟨bytes, h, rfl, rfl⟩

/-- The lines of a window are read from the text of the file. -/
theorem yields_readRange (h : Yields (readText path) s text s) (start count : Int) :
    Yields (readRange path (some start) (some count)) s (excerpt text ⟨start, count⟩) s :=
  yields_bind.mpr ⟨text, s, h, yields_pure.mpr ⟨rfl, rfl⟩⟩

/-- The pages of a file that is read `size` lines at a time, from its first line up to its last. -/
structure Paging (s : Session) (path text : String) (size : Nat) (pages : List String) : Prop where
  /-- There is a page for every one that starts at a line. -/
  starts : ∀ i, i < pages.length ↔ 1 + i * size ≤ (Text.lines text).length
  /-- Each page is what is read from its first line on. -/
  reads : ∀ (i : Nat) part, pages[i]? = some part →
    Yields (readRange path (some (1 + i * size)) (some size)) s part s
  /-- Each page holds the lines of its numbers. -/
  holds : ∀ (i : Nat) part, pages[i]? = some part →
    part = joinLines (numbered (Text.lines text) (1 + i * size) ((i + 1) * size))
  /-- Every page but the last is full. -/
  full : ∀ (i : Nat) part, pages[i]? = some part → i + 1 < pages.length →
    (Text.lines part).length = size
  /-- The numbers of all pages are those of all lines, once and in order. -/
  whole : (List.range pages.length).flatMap
    (fun i : Nat => numbered (Text.lines text) (1 + i * size) ((i + 1) * size)) = Text.lines text

theorem paging_pages (h : Yields (readText path) s text s) {size : Nat} (hsize : 1 ≤ size) :
    Paging s path text size (Source.pages size text) where
  starts _ := Source.lt_length_pages_iff hsize
  reads i part hpart := by
    obtain rfl := Source.getElem?_pages hpart
    exact yields_readRange h _ _
  holds i part hpart := by
    rw [Source.getElem?_pages hpart, excerpt, Source.lines_page_eq_numbered]
  full i part hpart hnext := by
    rw [Source.getElem?_pages hpart]
    exact Source.length_lines_of_next_page hsize hnext
  whole := by
    simp only [← Source.lines_page_eq_numbered]
    rw [Source.length_pages, Source.flatMap_page hsize]

/-- **Paging.** A file is read in pages: each holds the lines of its numbers, every page but the
    last is full, and together they hold every line once, in order. Joined by line feeds they make
    the text of the file with a line feed in place of every carriage return and line feed. Behind
    the last line nothing is read. -/
theorem pages_make_text (h : Yields (readText path) s text s) {size : Nat} (hsize : 1 ≤ size) :
    ∃ pages : List String, Paging s path text size pages ∧
      joinLines pages = String.ofList (unifyBreaks text.toList) ∧
      ∀ start count : Int, (Text.lines text).length < start →
        Yields (readRange path (some start) (some count)) s "" s := by
  refine ⟨Source.pages size text, paging_pages h hsize, Source.joinLines_pages hsize text,
    fun start count hstart => ?_⟩
  have hread := yields_readRange h start count
  rwa [excerpt, Source.Window.lines_eq_nil hstart] at hread

/-- A text with white space at its ends and with all kinds of line ends. -/
def wrappedText : String := "\texport \r\nenum A \x7b\x7d\r\r\n"

/-- The bytes of that text, as a source. -/
def wrappedSource : ByteArray := wrappedText.toUTF8

/-- A session with that source. -/
def wrappedSession : Session :=
  Session.new ⟨[(["W"], .directory), (["W", "x.ts"], .file wrappedSource)]⟩
    (FileSystem.standing ["W"]) ⟨[], "/tmp"⟩

theorem decodeBytes_wrappedSource : Text.Utf8.decodeBytes wrappedSource = wrappedText := by
  rw [Text.Utf8.decodeBytes, Text.Utf8.decodeText, Text.Utf8.decode_of_ascii (by decide +kernel)]
  decide +kernel

theorem read_wrappedSource :
    wrappedSession.fs.read wrappedSession.here "/W/x.ts" = .ok wrappedSource := by
  decide

/-- In pages of two lines, all three lines of the text are read, with one kind of line ends. -/
theorem pages_make_text_wrapped :
    ∃ pages : List String, pages.length = 2 ∧
      Paging wrappedSession "/W/x.ts" wrappedText 2 pages ∧
      joinLines pages = "\texport \nenum A \x7b\x7d\r\n" := by
  have htext := yields_readText_of_read read_wrappedSource
  rw [decodeBytes_wrappedSource] at htext
  obtain ⟨pages, hpages, hjoin, -⟩ := pages_make_text htext (show 1 ≤ 2 by decide)
  have hlines : (Text.lines wrappedText).length = 3 := by decide +kernel
  refine ⟨pages, ?_, hpages, ?_⟩
  · have hsecond := hpages.starts 1
    have hthird := hpages.starts 2
    rw [hlines] at hsecond hthird
    omega
  · rw [hjoin]
    decide +kernel

/-! ### Windows -/

/-- **Reading a window** of a file never fails, whatever its numbers are. A window that starts
    before the first line is moved there, so what is read are the lines that it overlaps, in order,
    and behind them as many more as it starts before the first line, if there are so many. Only the
    lines that it overlaps are read of a window that starts at a line or behind all of them, that
    holds no line, or that reaches to the last line. -/
theorem ranged_reads_show_window (h : s.fs.read s.here path = .ok bytes) (w : Window) :
    let ls := Text.lines (Text.Utf8.decodeBytes bytes)
    Yields (readRange path (some w.start) (some w.count)) s (joinLines (w.lines ls)) s ∧
      w.lines ls = numbered ls w.start (max 1 w.start + w.count - 1) ∧
      (∃ more, w.lines ls = w.overlap ls ++ more ∧ more.length ≤ (1 - w.start).toNat) ∧
      (joinLines (w.lines ls) = joinLines (w.overlap ls) ↔
        1 ≤ w.start ∨ w.count ≤ 0 ∨ (ls.length : Int) ≤ w.start + w.count - 1 ∨
          w.overlap ls = [] ∧ w.lines ls = [""]) := by
  intro ls
  exact ⟨yields_readRange (yields_readText_of_read h) w.start w.count, w.lines_eq_numbered ls,
    w.exists_lines_eq_append ls, w.joinLines_eq_overlap_iff _⟩

/-- A session with a file of three lines. -/
def threeLines : Session :=
  Session.new ⟨[(["W"], .directory), (["W", "f.txt"], .file "one\ntwo\nthree".toUTF8)]⟩
    (FileSystem.standing ["W"]) ⟨[], "/tmp"⟩

theorem read_threeLines :
    threeLines.fs.read threeLines.here "/W/f.txt" = .ok "one\ntwo\nthree".toUTF8 := by
  decide

theorem lines_threeLines :
    Text.lines (Text.Utf8.decodeBytes "one\ntwo\nthree".toUTF8) = ["one", "two", "three"] := by
  rw [Text.Utf8.decodeBytes, Text.Utf8.decodeText, Text.Utf8.decode_of_ascii (by decide +kernel)]
  decide +kernel

/-- Of a window that starts before the file and reaches to its end, nothing else is read. -/
theorem ranged_reads_show_window_whole :
    Yields (readRange "/W/f.txt" (some (-1)) (some 5)) threeLines "one\ntwo\nthree" threeLines ∧
      joinLines ((Window.mk (-1) 5).overlap ["one", "two", "three"]) = "one\ntwo\nthree" := by
  obtain ⟨hread, -, -, hsame⟩ := ranged_reads_show_window read_threeLines ⟨-1, 5⟩
  rw [lines_threeLines] at hread hsame
  have hshown : joinLines ((Window.mk (-1) 5).lines ["one", "two", "three"]) =
      "one\ntwo\nthree" := by decide
  rw [hshown] at hread hsame
  exact ⟨hread, (hsame.mpr (Or.inr (Or.inr (Or.inl (by decide))))).symm⟩

/-- **Beyond the overlap.** Of a window of two lines that starts one line before the file, the
    second line is read too, though the window ends with the first one. -/
theorem ranged_read_beyond_overlap :
    Yields (readRange "/W/f.txt" (some 0) (some 2)) threeLines "one\ntwo" threeLines ∧
      joinLines ((Window.mk 0 2).overlap
        (Text.lines (Text.Utf8.decodeBytes "one\ntwo\nthree".toUTF8))) = "one" := by
  have hread := yields_readRange (yields_readText_of_read read_threeLines) 0 2
  rw [excerpt, lines_threeLines] at hread
  rw [lines_threeLines]
  exact ⟨hread, by decide⟩

/-! ### Declarations -/

/-- The lines of a declaration are read without others around them. -/
theorem yields_readAround_zero (h : Yields (readText path) s text s) {first : Nat}
    (hfirst : 1 ≤ first) (last : Nat) :
    Yields (readAround path first last 0) s
      (joinLines (((Text.lines text).drop (first - 1)).take (last + 1 - first))) s := by
  rw [← Source.Window.around_zero_lines hfirst]
  exact yields_readRange h _ _

/-- The signature on a line is the start of that line of the text, without white space around it. -/
theorem signatureAt_ofBytes (bytes : ByteArray) (line : Nat) :
    signatureAt (.ofBytes bytes) line =
      (((Text.lines (Text.Utf8.decodeBytes bytes))[line - 1]?).map
        (fun l => String.ofList ((Text.trimList l.toList).take 200))).getD "" := by
  have hrows : (Declaration.Source.ofBytes bytes).rows =
      (Text.rows (Text.Utf8.decodeBytes bytes).toList).toArray := by
    rw [Text.Utf8.decodeBytes, Text.Utf8.decodeText, String.toList_ofList]
    rfl
  -- A row has one carriage return more than its line at most, which trimming takes away.
  have hsame := congrArg (fun ls => ls[line - 1]?)
    (Text.map_trimList_lines (Text.Utf8.decodeBytes bytes))
  simp only [List.getElem?_map] at hsame
  unfold signatureAt
  rw [hrows, List.getElem?_toArray]
  rcases hrow : (Text.rows (Text.Utf8.decodeBytes bytes).toList)[line - 1]? with _ | row
  · rw [hrow, Option.map_none, Option.map_eq_none_iff] at hsame
    rw [hsame]
    rfl
  · rw [hrow, Option.map_some] at hsame
    obtain ⟨l, hl, htrim⟩ := Option.map_eq_some_iff.mp hsame
    rw [hl, Option.map_some, htrim]
    rfl

/-- A signature is on one line, is not too long and starts with no white space. -/
theorem shape_of_signatureAt (bytes : ByteArray) (line : Nat) :
    '\n' ∉ (signatureAt (.ofBytes bytes) line).toList ∧
      (signatureAt (.ofBytes bytes) line).length ≤ 200 ∧
      ∀ c, (signatureAt (.ofBytes bytes) line).toList.head? = some c → Text.isBlank c = false := by
  rw [signatureAt_ofBytes]
  rcases hl : (Text.lines (Text.Utf8.decodeBytes bytes))[line - 1]? with _ | l
  · simp
  · rw [Option.map_some, Option.getD_some, String.toList_ofList, String.length_ofList]
    refine ⟨fun hfeed => ?_, List.length_take_le _ _, fun c hc => ?_⟩
    · exact Text.not_mem_of_mem_lines (List.mem_of_getElem? hl)
        (Text.mem_of_mem_trimList (List.mem_of_mem_take hfeed))
    · rw [List.head?_take, if_neg (by decide)] at hc
      exact Text.head?_trimList hc

/-- The first of some lines that are read is the line that they start with, but for white space at
    its ends; it is empty if they start behind the last line. -/
theorem exists_head?_lines_take (text : String) (before more : Nat) :
    ∃ first, (Text.lines (joinLines (((Text.lines text).drop before).take (more + 1)))).head? =
        some first ∧
      Text.trimList first.toList =
        (((Text.lines text)[before]?).map (fun l => Text.trimList l.toList)).getD [] := by
  rcases hl : (Text.lines text)[before]? with _ | l
  · rw [List.drop_eq_nil_of_le (List.getElem?_eq_none_iff.mp hl), List.take_nil]
    exact ⟨"", rfl, rfl⟩
  · obtain ⟨hlt, rfl⟩ := List.getElem?_eq_some_iff.mp hl
    rw [List.drop_eq_getElem_cons hlt, List.take_succ_cons, Option.map_some, Option.getD_some]
    refine Text.exists_head?_lines_joinLines (fun line hline => ?_)
    rw [← List.take_succ_cons, ← List.drop_eq_getElem_cons hlt] at hline
    exact Text.not_mem_of_mem_take_lines hline

/-- **Signatures.** Whatever the source and its syntax tree, the signature of a declaration is the
    first of the lines that are read for it, without white space at its ends and cut off behind 200
    characters. Both are empty if the declaration starts behind the last line. A signature is on one
    line and starts with no white space. -/
theorem signatures_start_first_lines (hread : s.fs.read s.here path = .ok bytes)
    (hr : r ∈ records file bytes root) :
    ∃ code first, Yields (readAround path r.startLine r.endLine 0) s code s ∧
      (Text.lines code).head? = some first ∧
      r.signature = String.ofList ((Text.trimList first.toList).take 200) ∧
      ((Text.lines (Text.Utf8.decodeBytes bytes)).length < r.startLine →
        code = "" ∧ r.signature = "") ∧
      '\n' ∉ r.signature.toList ∧ r.signature.length ≤ 200 ∧
      ∀ c, r.signature.toList.head? = some c → Text.isBlank c = false := by
  obtain ⟨o, -, ho⟩ := mem_records_iff.mp hr
  obtain ⟨-, -, hsignature⟩ := Occurrence.lines_of_record? ho
  obtain ⟨hfirst, horder⟩ := Declaration.startLine_le_of_mem_records hr
  -- One line is read even where the end is that of the start, so the first line is never cut off.
  have hmore : r.endLine + 1 - r.startLine = r.endLine - r.startLine + 1 := by omega
  have hcode := yields_readAround_zero (yields_readText_of_read hread) hfirst r.endLine
  rw [hmore] at hcode
  obtain ⟨first, hhead, htrim⟩ := exists_head?_lines_take (Text.Utf8.decodeBytes bytes)
    (r.startLine - 1) (r.endLine - r.startLine)
  refine ⟨_, first, hcode, hhead, ?_, fun hpast => ?_, ?_⟩
  · rw [hsignature, signatureAt_ofBytes, htrim]
    rcases (Text.lines (Text.Utf8.decodeBytes bytes))[r.startLine - 1]? with _ | l <;> rfl
  · have hle : (Text.lines (Text.Utf8.decodeBytes bytes)).length ≤ r.startLine - 1 := by omega
    rw [hsignature, signatureAt_ofBytes, List.getElem?_eq_none hle, List.drop_eq_nil_of_le hle,
      List.take_nil]
    exact ⟨rfl, rfl⟩
  · rw [hsignature]
    exact shape_of_signatureAt bytes r.startLine

/-- The declaration in that source. -/
def wrappedNode : Node :=
  .mk "enum_declaration" (some "declaration") true ⟨⟨1, 0⟩, ⟨1, 9⟩, 10, 19⟩
    [.mk "identifier" (some "name") true ⟨⟨1, 5⟩, ⟨1, 6⟩, 15, 16⟩ []]

/-- The wrapper around it, which starts on the line before. -/
def wrappingNode : Node :=
  .mk "export_statement" none true ⟨⟨0, 1⟩, ⟨1, 9⟩, 1, 19⟩ [wrappedNode]

/-- The syntax tree of that source. -/
def wrappedTree : Node := .mk "program" none true ⟨⟨0, 1⟩, ⟨2, 0⟩, 1, 22⟩ [wrappingNode]

/-- The declaration in its tree. -/
def wrappedOccurrence : Occurrence := ⟨wrappedNode, [wrappingNode, wrappedTree], [0, 0]⟩

theorem reach_wrappedOccurrence : ReflTransGen IsChild (.root wrappedTree) wrappedOccurrence := by
  have hwrapping : IsChild (.root wrappedTree) ⟨wrappingNode, [wrappedTree], [0]⟩ :=
    Occurrence.mem_children_iff.mpr ⟨0, wrappingNode, rfl, rfl⟩
  exact .tail (.single hwrapping)
    (Occurrence.mem_children_iff.mpr ⟨0, wrappedNode, rfl, rfl⟩)

theorem nested_wrappedTree : Nested wrappedTree := by
  have hname : Nested (.mk "identifier" (some "name") true ⟨⟨1, 5⟩, ⟨1, 6⟩, 15, 16⟩ []) :=
    .intro (by decide) (by simp) (by simp)
  have hnode : Nested wrappedNode :=
    .intro (by decide) (by decide) (by simpa [wrappedNode] using hname)
  have hwrapping : Nested wrappingNode :=
    .intro (by decide) (by decide) (by simpa [wrappingNode] using hnode)
  exact .intro (by decide) (by decide) (by simpa [wrappedTree] using hwrapping)

/-- The record of the declaration. -/
theorem exists_record?_wrapped : ∃ r, wrappedOccurrence.record? "x.ts" (.ofBytes wrappedSource) =
    some r ∧ r.startLine = 1 ∧ r.endLine = 2 := ⟨_, rfl, rfl, rfl⟩

/-- The signature is the first line of the declaration, without the white space and the carriage
    return at its ends. -/
theorem signatures_start_first_lines_wrapped :
    ∃ r ∈ records "x.ts" wrappedSource wrappedTree, ∃ code,
      Yields (readAround "/W/x.ts" r.startLine r.endLine 0) wrappedSession code wrappedSession ∧
      (Text.lines code).head? = some "\texport " ∧ r.signature = "export" := by
  obtain ⟨r, ho, hstart, hend⟩ := exists_record?_wrapped
  have hr := mem_records_iff.mpr ⟨_, reach_wrappedOccurrence, ho⟩
  have hfirst := (Declaration.startLine_le_of_mem_records hr).1
  obtain ⟨code, first, hcode, hhead, hsignature, -⟩ :=
    signatures_start_first_lines read_wrappedSource hr
  -- The lines that are read are the first two.
  have hlines := yields_readAround_zero (yields_readText_of_read read_wrappedSource) hfirst
    r.endLine
  rw [hstart, hend, decodeBytes_wrappedSource] at hlines
  have hself : (Text.lines code).head? = some "\texport " := by
    rw [hstart, hend] at hcode
    rw [hcode.unique hlines]
    decide +kernel
  rw [hself, Option.some.injEq] at hhead
  subst hhead
  refine ⟨r, hr, code, hcode, hself, ?_⟩
  rw [hsignature]
  decide +kernel

/-- **Lines of declarations.** Every declaration starts at a line with a number and ends there or
    later. Where the syntax tree is nested and ends within the source, the lines of a declaration
    are lines of the source, on which the declaration has all its text, and so have the wrappers
    that follow each other around it; and as many lines are read for it. -/
theorem declarations_keep_their_lines (file : String) (bytes : ByteArray) (root : Node) :
    (∀ r ∈ records file bytes root, 1 ≤ r.startLine ∧ r.startLine ≤ r.endLine ∧
      ∃ o, ReflTransGen IsChild (.root root) o ∧ o.record? file (.ofBytes bytes) = some r) ∧
    (Nested root → root.extent.stop.row ≤ bytes.toList.count 10 →
      ∀ o r, ReflTransGen IsChild (.root root) o → o.record? file (.ofBytes bytes) = some r →
        (∀ a ∈ o.node :: o.above.takeWhile (fun a => Declaration.isWrapper a.kind), ∀ line,
          a.extent.HasTextOn line → r.startLine ≤ line ∧ line ≤ r.endLine) ∧
        r.endLine ≤ (Text.lines (Text.Utf8.decodeBytes bytes)).length ∧
        ∀ (s : Session) (path : String), s.fs.read s.here path = .ok bytes →
          ∃ code, Yields (readAround path r.startLine r.endLine 0) s code s ∧
            (Text.lines code).length = r.endLine - r.startLine + 1) := by
  refine ⟨fun r hr => ?_, fun hroot hrows o r hreach ho => ?_⟩
  · obtain ⟨hfirst, horder⟩ := Declaration.startLine_le_of_mem_records hr
    exact ⟨hfirst, horder, mem_records_iff.mp hr⟩
  obtain ⟨hstart, hend, -⟩ := Occurrence.lines_of_record? ho
  obtain ⟨hordered, hinside⟩ := Occurrence.span_within_root hroot hreach
  -- The root contains every span below it, so no declaration ends behind the last row.
  have hlines : r.endLine ≤ (Text.lines (Text.Utf8.decodeBytes bytes)).length := by
    rw [hend, Text.length_lines_decodeBytes]
    exact Declaration.endLineOf_le hordered (hinside.2.row_le.trans hrows)
  refine ⟨fun a ha line hline => ?_, hlines, fun s path hread => ?_⟩
  · rw [hstart, hend]
    exact Declaration.mem_lines_of_hasTextOn hline (Occurrence.within_span hroot hreach ha)
  · obtain ⟨hfirst, horder⟩ :=
      Declaration.startLine_le_of_mem_records (mem_records_iff.mpr ⟨o, hreach, ho⟩)
    refine ⟨_, yields_readAround_zero (yields_readText_of_read hread) hfirst r.endLine, ?_⟩
    have hlength : (((Text.lines (Text.Utf8.decodeBytes bytes)).drop (r.startLine - 1)).take
        (r.endLine + 1 - r.startLine)).length = r.endLine - r.startLine + 1 := by
      rw [List.length_take, List.length_drop]
      omega
    rw [Text.length_lines_joinLines _ (fun _ => Text.not_mem_of_mem_take_lines), hlength]
    exact List.length_pos_iff.mp (by omega)

/-- The declaration has the line of its own text and that of its wrapper. -/
theorem declarations_keep_their_lines_wrapped :
    ∃ r, wrappedOccurrence.record? "x.ts" (.ofBytes wrappedSource) = some r ∧
      r.startLine ≤ 1 ∧ 2 ≤ r.endLine ∧ r.endLine ≤ 3 ∧ ∃ code,
        Yields (readAround "/W/x.ts" r.startLine r.endLine 0) wrappedSession code wrappedSession ∧
        (Text.lines code).length = 2 := by
  obtain ⟨r, ho, hstart, hend⟩ := exists_record?_wrapped
  obtain ⟨-, hnested⟩ := declarations_keep_their_lines "x.ts" wrappedSource wrappedTree
  obtain ⟨hcovered, hlast, hread⟩ := hnested nested_wrappedTree (by decide +kernel) _ r
    reach_wrappedOccurrence ho
  have hwrappers : wrappedOccurrence.above.takeWhile (fun a => Declaration.isWrapper a.kind) =
      [wrappingNode] := rfl
  rw [hwrappers] at hcovered
  have hfirst := hcovered wrappingNode (by simp) 1 ⟨⟨0, 1⟩, by decide, by decide, rfl⟩
  have hsecond := hcovered wrappedNode (by simp [wrappedOccurrence]) 2
    ⟨⟨1, 0⟩, by decide, by decide, rfl⟩
  have hcount : (Text.lines (Text.Utf8.decodeBytes wrappedSource)).length = 3 := by
    rw [decodeBytes_wrappedSource]
    decide +kernel
  obtain ⟨code, hcode, hlength⟩ := hread wrappedSession "/W/x.ts" read_wrappedSource
  refine ⟨r, ho, hfirst.1, hsecond.2, hcount ▸ hlast, code, hcode, ?_⟩
  rw [hlength, hstart, hend]

end PackageAtlas.Tool
