import PackageAtlas.Text.Lines

namespace PackageAtlas.Source

/-!
# Windows of lines

* `Window`: some lines of a text, by the first one and their number; `Window.lines`;
* `Window.around`: the window of a declaration, with lines before and behind it;
* `excerpt`: a text, or the lines of a window of it.
-/

/-- Lines of a text; the first line of a text has the number one. -/
structure Window where
  start : Int
  count : Int
deriving Repr, DecidableEq

/-- The lines of a window of a text, as far as there are lines. A window that starts before the
    first line is moved there. -/
def Window.lines {α : Type} (w : Window) (ls : List α) : List α :=
  (ls.drop (w.start - 1).toNat).take w.count.toNat

/-- The window from one line to another, with `padding` lines before and behind them. -/
def Window.around (first last padding : Int) : Window :=
  let start := max 1 (first - padding)
  ⟨start, last + padding - start + 1⟩

/-- The lines of a window of a text, with line feeds between them. -/
def excerpt (text : String) (w : Window) : String := Text.joinLines (w.lines (Text.lines text))

end PackageAtlas.Source
