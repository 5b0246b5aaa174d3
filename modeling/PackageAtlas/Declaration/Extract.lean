import PackageAtlas.Declaration.Kind
import PackageAtlas.Syntax.Node
import PackageAtlas.Text.Lines
import PackageAtlas.Text.Utf8

namespace PackageAtlas.Declaration

open Syntax (Node Extent)

/-!
# Declarations of a file

A syntax tree is walked from its root through named children, each node before its children, and
every node that classifies as a declaration gives one record.

* `Record`: a declaration with its place and the first line of its source;
* `Surroundings`: what a node's ancestors say about it;
* `record`: the record of one node;
* `records`: all records of a tree, in source order.
-/

/-- A declaration of a file. -/
structure Record where
  kind : Kind
  name : String
  /-- Path of the file, relative to its package. -/
  file : String
  /-- First line, from one. -/
  startLine : Nat
  /-- Last line. -/
  endLine : Nat
  /-- Start of the first line. -/
  signature : String
deriving Repr, DecidableEq

/-- Length of the longest signature, in characters. -/
def signatureLimit : Nat := 200

/-- What the ancestors of a node say about it. -/
structure Surroundings where
  /-- Kind of the direct parent. -/
  parent : Option String
  /-- Whether an ancestor opens a local scope. -/
  isLocal : Bool
  /-- What the outermost of the wrappers directly around the node covers. -/
  wrapper : Option Extent
deriving Repr

/-- The root has no ancestors. -/
def Surroundings.root : Surroundings := ⟨none, false, none⟩

/-- The surroundings of the children of `n`. -/
def Surroundings.inside (s : Surroundings) (n : Node) : Surroundings where
  parent := some n.kind
  isLocal := s.isLocal || opensLocalScope n.kind
  wrapper := if isWrapper n.kind then some (s.wrapper.getD n.extent) else none

/-- A declaration block that adds to the global scope. -/
def isGlobalBlock (n : Node) : Bool :=
  n.kind == "ambient_declaration" && n.children.any (fun c => c.kind == "global")

/-- The shape of a node in its surroundings. -/
def shapeOf (s : Surroundings) (n : Node) : Shape where
  kind := n.kind
  parent := s.parent
  isLocal := s.isLocal
  isGlobal := isGlobalBlock n

/-- A source file: its bytes and its rows. -/
structure Source where
  bytes : ByteArray
  rows : Array (List Char)

/-- The source of some bytes. -/
def Source.ofBytes (bytes : ByteArray) : Source :=
  ⟨bytes, (Text.rows (Text.Utf8.decode bytes.toList)).toArray⟩

/-- The text that a node covers. -/
def Source.text (src : Source) (e : Extent) : String :=
  Text.Utf8.decodeBytes (src.bytes.extract e.startByte e.stopByte)

/-- The first binding of a variable statement. -/
def firstBinding (n : Node) : Option Node :=
  match n.namedChildren.find? (fun c => c.kind == "variable_declarator") with
  | some declarator => declarator.childByField "name"
  | none => none

/-- The name that a node declares. -/
def declaredName (src : Source) (n : Node) : String :=
  if isGlobalBlock n then "global"
  else match n.childByField "name" with
    | some name => src.text name.extent
    | none =>
      if isVariableStatement n.kind then
        match firstBinding n with
        | some name => src.text name.extent
        | none => "default"
      else "default"

/-- The first line that an extent covers, from one. -/
def startLineOf (e : Extent) : Nat := e.start.row + 1

/-- The last line that an extent covers; one that ends at the start of a row ended on the line
    before. -/
def endLineOf (e : Extent) : Nat :=
  max (startLineOf e) (if e.stop.column > 0 then e.stop.row + 1 else e.stop.row)

/-- The signature on a line: its start, without the white space around it. -/
def signatureAt (src : Source) (line : Nat) : String :=
  match src.rows[line - 1]? with
  | some row => String.ofList ((Text.trimList row).take signatureLimit)
  | none => ""

/-- The record of a node of kind `k`. -/
def record (file : String) (src : Source) (s : Surroundings) (n : Node) (k : Kind) : Record :=
  let extent := s.wrapper.getD n.extent
  { kind := k
    name := declaredName src n
    file := file
    startLine := startLineOf extent
    endLine := endLineOf extent
    signature := signatureAt src (startLineOf extent) }

/-- A node that is still to be visited. -/
structure Visit where
  node : Node
  surroundings : Surroundings

/-- The visits that a node's named children ask for. -/
def Visit.next (v : Visit) : List Visit :=
  v.node.namedChildren.map (fun c => ⟨c, v.surroundings.inside v.node⟩)

/-- The work that pending visits stand for. -/
noncomputable def pendingSize : List Visit → Nat
  | [] => 0
  | v :: vs => sizeOf v.node + pendingSize vs

theorem pendingSize_filter_le (s : Surroundings) (p : Node → Bool) (cs : List Node) :
    pendingSize ((cs.filter p).map (fun c => ⟨c, s⟩)) ≤ sizeOf cs := by
  induction cs with
  | nil => simp [pendingSize]
  | cons c cs ih =>
    rw [List.filter_cons]
    split
    · simp only [List.map_cons, pendingSize, List.cons.sizeOf_spec]
      omega
    · simp only [List.cons.sizeOf_spec]
      omega

theorem pendingSize_next_lt (v : Visit) : pendingSize v.next < sizeOf v.node := by
  obtain ⟨n, s⟩ := v
  cases n with
  | mk k f m e cs =>
    have h := pendingSize_filter_le (s.inside (.mk k f m e cs)) Node.named cs
    simp only [Visit.next, Node.namedChildren, Node.children_mk, Node.mk.sizeOf_spec]
    omega

theorem pendingSize_append (vs ws : List Visit) :
    pendingSize (vs ++ ws) = pendingSize vs + pendingSize ws := by
  induction vs with
  | nil => simp [pendingSize]
  | cons v vs ih =>
    simp only [List.cons_append, pendingSize, ih]
    omega

/-- The records of the pending visits, behind those of `done`, which are held in reverse. -/
def recordsAfter (file : String) (src : Source) (done : List Record) : List Visit → List Record
  | [] => done.reverse
  | v :: vs =>
    have : pendingSize (v.next ++ vs) < pendingSize (v :: vs) := by
      have := pendingSize_next_lt v
      rw [pendingSize_append, pendingSize]
      omega
    match classify (shapeOf v.surroundings v.node) with
    | some k =>
      recordsAfter file src (record file src v.surroundings v.node k :: done) (v.next ++ vs)
    | none => recordsAfter file src done (v.next ++ vs)
  termination_by vs => pendingSize vs

/-- The declarations of a tree over a source, in source order. -/
def records (file : String) (bytes : ByteArray) (root : Node) : List Record :=
  recordsAfter file (Source.ofBytes bytes) [] [⟨root, Surroundings.root⟩]

end PackageAtlas.Declaration
