import PackageAtlas.Tool.Answer

namespace PackageAtlas.Tool

open Declaration (Kind Record)

/-!
# Answering requests

* `listPackages`, `searchPackage`, `readFile`, `listDeclarations`, `readDeclaration`: the answers;
* `Request.run`: the answer to any request;
* `Fault.failure`: what a caller is told of a fault.
-/

/-- The number in an argument, which must be in a range. -/
def requireRange (label : String) (least : Int) (most : Option Int) (value : Argument) :
    Action Int := do
  match value.number? with
  | some n =>
    orFault .range (checkRange label least most n value.shown)
    return n
  | none => throw (.misfit (.unordered value.sort))

/-- The number in an argument, which must be in a range if it is given. -/
def rangeIfGiven (label : String) (least : Int) (most : Action (Option Int)) (value : Argument) :
    Action (Option Int) := do
  match value with
  | .nothing => return none
  | _ => return some (← requireRange label least (← most) value)

/-- The text of an argument of which an operation of texts is needed. -/
def requireText (operation : String) (a : Argument) : Action String :=
  match a with
  | .text value => return value
  | _ => throw (.misfit (.lacks a.sort operation))

/-- The packages of a project whose names hold a text. -/
def listPackages (root filter : Argument) : Action Answer := do
  let top ← rootOf root
  let s ← get
  let all ← orFault .file (Package.scan s.fs s.here top "")
  match filter with
  | .text part => return .packages top (all.filter (fun p => p.name.contains part))
  | _ =>
    if filter.holds && !all.isEmpty then throw (.misfit (.notInText filter.sort))
    else return .packages top all

/-- Whether an error of a pattern is one of its grammar, not of the numbers or flags in it. -/
def isGrammatical : Pattern.Error → Bool
  | .bothScripts => false
  | .countTooLarge => false
  | .countTooLong _ => false
  | .overlongLook => false
  | _ => true

/-- The letters in the members of an argument: each of them must be a letter of a flag. -/
def flagLetters (shown : String) : List Argument → Except (Misfit ⊕ Pattern.Error) String
  | [] => .ok ""
  | .text letter :: rest => do
    if (letter.toList.length = 1) && (Pattern.flagsOfLetters? letter.toList).isSome then
      return letter ++ (← flagLetters shown rest)
    else throw (.inr (.badFlags shown))
  | .list _ :: _ => .error (.inl (.notKey .list))
  | .record _ :: _ => .error (.inl (.notKey .record))
  | _ :: _ => .error (.inr (.badFlags shown))

/-- The letters that flags are given by. -/
def lettersOf (flags : Argument) : Except (Misfit ⊕ Pattern.Error) String :=
  match flags with
  | .text letters => .ok letters
  | .list members => flagLetters flags.shown members
  | .record fields => flagLetters flags.shown (fields.map (fun f => .text f.1))
  | _ => if flags.holds then .error (.inl (.noMembers flags.sort)) else .ok ""

/-- A pattern, or the error that there is none. -/
def compileArguments (pattern flags : Argument) :
    Except (Misfit ⊕ Pattern.Error) Pattern.Regex := do
  let letters ← lettersOf flags
  match pattern with
  | .text text =>
    match Pattern.Regex.compile text letters with
    | .ok regex => return regex
    | .error e => throw (.inr e)
  | .list _ => throw (.inl (.notKey .list))
  | .record _ => throw (.inl (.notKey .record))
  | _ =>
    match Pattern.flagsOfLetters? letters.toList with
    | none => throw (.inr (.badFlags letters))
    | some _ => throw (.inl .notPattern)

/-- The lines in the files of a package in which a pattern matches. -/
def searchPackage (package pattern root flags context limit copies : Argument) :
    Action Answer := do
  let context ← requireRange "context" 0 none context
  let settings ← currentSettings
  let limit ← requireRange "limit" 1 (some settings.maxSearchResults) limit
  let some p ← findPackage package root | return .absent (.package package.inText)
  let text := pattern.inText
  match compileArguments pattern flags with
  | .error (.inl e) => throw (.misfit e)
  | .error (.inr e) =>
    if isGrammatical e then return .absent (.pattern text e)
    else throw (.pattern text e)
  | .ok regex =>
    if copies.holds then throw (.misfit (.lacks copies.sort "module_dir"))
    let replica ← currentReplica
    let s ← get
    let hits ← orFault searchFault
      (Search.firstHits s.fs s.here (some replica) p regex context limit)
    return .hits p hits

/-- Whether a path ends as those of documentation do. -/
def isDocs (path : String) : Bool := ".md".toList.isSuffixOf (Text.lower path).toList

/-- The copy of a file of a package in the documentation of the session, if it is there. -/
def replicated? (p : Package) (file : String) (copies : Argument) : Action (Option String) := do
  if copies.holds then
    if isDocs file then throw (.misfit (.lacks copies.sort "is_cached")) else return none
  let replica ← currentReplica
  if isDocs file then
    if ← orFault .unwritable (replica.isCached p file) then
      let dir ← orFault .unwritable (replica.packageDirectory p)
      let path ← pathInside dir file
      if ← isFile path then return some path else return none
    else return none
  else return none

/-- The text of a file of a package, or some of its lines. Documentation is read from its copy. -/
def readFile (package file root start count copies : Argument) : Action Answer := do
  let start ← rangeIfGiven "startLine" 1 (pure none) start
  let count ← rangeIfGiven "count" 1 (do return some (← currentSettings).maxReadLines) count
  let some p ← findPackage package root | return .absent (.package package.inText)
  let file ← requireText "replace" file
  let inside ← pathInside p.directory file
  let slashed := Package.withSlashes file
  let path := (← replicated? p slashed copies).getD inside
  if ← isFile path then return .file p slashed (← readRange path start count)
  else return .absent (.file file)

/-- Whether a declaration has a kind, if one is given. -/
def isOfKind (kind : Option Kind) (r : Record) : Bool := kind.all (fun k => r.kind == k)

/-- Whether the name of a declaration holds a text, if one is given; an empty text is in every name,
    and what is no text is in none. -/
def hasName (name : Argument) (r : Record) : Except Misfit Bool :=
  match name with
  | .text part => .ok (Text.holdsText part r.name)
  | _ => if name.holds then .error (.notInText name.sort) else .ok true

/-- The declarations of a kind whose names hold a text, behind those in `done`, which are held in
    reverse. No more is looked at as soon as there are as many as are asked for. -/
def pickFrom (kind : Option Kind) (name : Argument) (limit : Int) (done : List Record) :
    List Record → Except Misfit (List Record)
  | [] => .ok done.reverse
  | r :: rest =>
    if !isOfKind kind r then pickFrom kind name limit done rest
    else do
      if !(← hasName name r) then pickFrom kind name limit done rest
      else if limit ≤ (r :: done).length then return (r :: done).reverse
      else pickFrom kind name limit (r :: done) rest

/-- The kind of a name; none if no name is given. -/
def wantedKind (name : Argument) : Except Fault (Option Kind) :=
  if name.holds then
    match name.text?.bind Kind.ofName? with
    | some k => .ok (some k)
    | none => .error (.kind name.shown)
  else .ok none

/-- The first declarations of a package of a kind, whose names hold a text. -/
def listDeclarations (package root kind name limit indexes : Argument) : Action Answer := do
  let settings ← currentSettings
  let limit ← requireRange "limit" 1 (some settings.maxSymbolResults) limit
  let kind ← orFault id (wantedKind kind)
  let some (p, index) ← findIndexed package root indexes
    | return .absent (.package package.inText)
  let found ← orFault .misfit (pickFrom kind name limit [] index)
  return .declarations p found

/-- The lines of the first declaration of a name in a file. -/
def readDeclaration (package file name root padding indexes : Argument) : Action Answer := do
  let padding ← requireRange "padding" 0 none padding
  let some (p, index) ← findIndexed package root indexes
    | return .absent (.package package.inText)
  let file ← requireText "replace" file
  let slashed := Package.withSlashes file
  match index.find? (fun r => r.file == slashed && name.text? == some r.name) with
  | none => return .absent (.declaration name.inText file)
  | some r =>
    let path ← pathInside p.directory slashed
    if ← isFile path then
      return .declaration p slashed r (← readAround path r.startLine r.endLine padding)
    else return .absent (.file file)

/-- The counts of the indexes. -/
def countIndexes (indexes : Argument) : Action Answer := do
  if indexes.holds then throw (.misfit (.lacks indexes.sort "get_cache_stats"))
  return .stats (← get).index.stats

/-- The answer to a request. -/
def Request.run : Request → Action Answer
  | .packages root part => listPackages root part
  | .search package pattern root flags context limit copies =>
    searchPackage package pattern root flags context limit copies
  | .file package path root start count copies => readFile package path root start count copies
  | .declarations package root kind name limit indexes =>
    listDeclarations package root kind name limit indexes
  | .declaration package path name root padding indexes =>
    readDeclaration package path name root padding indexes
  | .stats indexes => countIndexes indexes

/-- What a caller is told of a fault. -/
def Fault.failure (f : Fault) : Failure :=
  match f with
  | .file ⟨.missing, paths⟩ => .missingFile paths.head?
  | .file ⟨.nullCharacter, _⟩ => .invalidValue f.message
  | .file _ => .other f.message
  | .pattern _ .countTooLarge => .other f.message
  | .pattern _ (.countTooLong _) => .invalidValue f.message
  | .pattern _ .bothScripts => .invalidValue f.message
  | .pattern _ .overlongLook => .other f.message
  | .pattern _ _ => .other f.message
  | .settings _ => .invalidValue f.message
  | .path _ => .invalidValue f.message
  | .range _ => .invalidValue f.message
  | .kind _ => .invalidValue f.message
  | .unwritable _ => .invalidValue f.message
  | .misfit _ => .other f.message
  | .span _ => .other f.message

end PackageAtlas.Tool
