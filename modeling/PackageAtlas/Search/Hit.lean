import PackageAtlas.Pattern.Regex
import PackageAtlas.Text.Lines

namespace PackageAtlas.Search

open Pattern (SpanError)

/-!
# Hits

A hit is a line of a file in which a pattern matches, with the lines around it.

* `Hit`; `hitsIn`: the hits in the lines of a file;
* `part`: the members of a list between two places, the second of which may count from the end.
-/

/-- A line in which a pattern matches. -/
structure Hit where
  /-- Path of the file, from its package on. -/
  file : String
  /-- Number of the line, from one. -/
  line : Nat
  /-- The text that matches first in the line. -/
  found : String
  /-- The line and the lines around it. -/
  snippet : String
deriving Repr, DecidableEq

/-- The members of a list from `start` on and before `stop`; a `stop` below zero counts from the
    end. -/
def part {α : Type} (xs : List α) (start stop : Int) : List α :=
  let stop := if stop < 0 then max 0 (xs.length + stop) else stop
  (xs.take stop.toNat).drop start.toNat

/-- The lines around the line at `i`, `context` of them on either side. -/
def snippet (lines : List String) (context : Int) (i : Nat) : String :=
  Text.joinLines (part lines (max 0 (i - context)) (min lines.length (i + 1 + context)))

/-- The hits in some lines of a file, the first of which is the line at `i`, `limit` at most. -/
def hitsFrom (r : Pattern.Regex) (file : String) (all : List String) (context : Int) :
    Nat → Nat → List Hit → List String → Except SpanError (List Hit)
  | _, _, done, [] => .ok done.reverse
  | 0, _, done, _ :: _ => .ok done.reverse
  | limit + 1, i, done, l :: ls =>
    match r.find? l with
    | .ok (some found) =>
      hitsFrom r file all context limit (i + 1)
        (⟨file, i + 1, found, snippet all context i⟩ :: done)
        ls
    | .ok none => hitsFrom r file all context (limit + 1) (i + 1) done ls
    | .error e => .error e

/-- The hits in the lines of a file, `limit` at most. -/
def hitsIn (r : Pattern.Regex) (file : String) (context : Int) (limit : Nat)
    (lines : List String) : Except SpanError (List Hit) :=
  hitsFrom r file lines context limit 0 [] lines

end PackageAtlas.Search
