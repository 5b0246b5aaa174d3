namespace PackageAtlas.Tool

/-!
# Ranges of numbers

* `RangeError`: a number outside of its range, with its wording;
* `checkRange`: refuses such a number.
-/

/-- A number outside of its range. -/
structure RangeError where
  /-- What the number says. -/
  label : String
  /-- The number as it is written. -/
  shown : String
  least : Int
  /-- The greatest number of the range, if it has one. -/
  most : Option Int
deriving Repr, DecidableEq

/-- The wording for a number outside of its range. -/
def RangeError.message (e : RangeError) : String :=
  match e.most with
  | some most => s!"{e.label} must be between {e.least} and {most}, got {e.shown}"
  | none => s!"{e.label} must be >= {e.least}, got {e.shown}"

/-- Whether a number lies in a range. -/
def inRange (least : Int) (most : Option Int) (value : Int) : Bool :=
  decide (least ≤ value) && most.all (fun m => decide (value ≤ m))

/-- Refuses a number outside of its range. -/
def checkRange (label : String) (least : Int) (most : Option Int) (value : Int) (shown : String) :
    Except RangeError Unit :=
  if inRange least most value then .ok () else .error ⟨label, shown, least, most⟩

end PackageAtlas.Tool
