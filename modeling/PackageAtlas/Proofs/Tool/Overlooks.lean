import PackageAtlas.Proofs.Tool.Steps

namespace PackageAtlas.Tool

open Docs (Replica)

/-!
# What tools remember

Tools change nothing of a session but what they remember:

* `after_listDeclarations`, `after_readDeclaration`: tools that look at declarations change nothing
  once these have been found;
* `OverlooksSetup`: a view does not show what is set up when it is asked for first;
* `OverlooksSetup.keeps_searchPackage`, `OverlooksSetup.keeps_readFile`: that is all that tools
  change which look at files;
* `Overlooks`, `Overlooks.keeps_run`: tools that look at declarations change the indexes as well;
* `Overlooks.invoke_eq`, `Overlooks.call_eq`: so do calls of tools.
-/

variable {γ : Type} {s t : Session}

/-! ### Tools that change nothing -/

theorem keeps_listPackages {view : Session → γ} (root filter : Argument) :
    Keeps view (listPackages root filter) := by
  refine (looksOnly_rootOf root).keepsView.bind (fun top s => ?_)
  rw [outcome_bind, outcome_get]
  refine (LooksOnly.bind (.orFault _ _) (fun all => ?_)).keepsView s
  split
  · exact .pure _
  · split
    · exact .throw _
    · exact .pure _

theorem keeps_countIndexes {view : Session → γ} (indexes : Argument) :
    Keeps view (countIndexes indexes) := by
  intro s
  unfold countIndexes
  simp only
  split <;> rfl

/-! ### Tools that look at declarations -/

/-- Once the declarations of a package have been found, nothing changes any more. -/
theorem after_listDeclarations (package root kind name limit indexes : Argument) (s : Session) :
    s.after (listDeclarations package root kind name limit indexes) = s.after (do
      let settings ← currentSettings
      let _ ← requireRange "limit" 1 (some settings.maxSymbolResults) limit
      let _ ← orFault id (wantedKind kind)
      findIndexed package root indexes) := by
  refine after_bind_congr _ (fun settings => ?_) s
  refine after_bind_congr _ (fun n => ?_)
  refine after_bind_congr _ (fun wanted => LooksOnly.after_bind_eq ?_ _)
  rintro (_ | ⟨p, index⟩)
  · exact .pure _
  · exact .bind (.orFault _ _) (fun _ => .pure _)

theorem after_readDeclaration (package file name root padding indexes : Argument) (s : Session) :
    s.after (readDeclaration package file name root padding indexes) = s.after (do
      let _ ← requireRange "padding" 0 none padding
      findIndexed package root indexes) := by
  refine after_bind_congr _ (fun n => LooksOnly.after_bind_eq ?_ _) s
  rintro (_ | ⟨p, index⟩)
  · exact .pure _
  refine .bind (looksOnly_requireText _ _) (fun text => ?_)
  simp only
  split
  · exact .pure _
  refine .bind (looksOnly_pathInside _ _) (fun path => ?_)
  refine .bind (looksOnly_isFile _) (fun there => ?_)
  split
  · exact .bind (looksOnly_readAround _ _ _ _) (fun _ => .pure _)
  · exact .pure _

/-! ### What is set up -/

/-- A view of sessions does not show what is set up when it is asked for first: settings, and a
    replica to which nothing has been copied. -/
structure OverlooksSetup (view : Session → γ) : Prop where
  settings : ∀ s settings, s.config = .ok settings →
    view { s with settings := some settings } = view s
  replica : ∀ s settings, s.replica = none → s.config = .ok settings →
    view { s with replica := some (Replica.new settings.docsDirectory) } = view s

namespace OverlooksSetup

variable {view : Session → γ} (h : OverlooksSetup view)

include h

theorem keeps_currentSettings : Keeps view currentSettings :=
  Tool.keeps_currentSettings h.settings

theorem keeps_currentReplica : Keeps view currentReplica := by
  intro s
  rw [outcome_currentReplica_eq]
  rcases hr : s.replica with _ | replica
  · rcases hs : s.config with e | settings
    · rfl
    · exact (h.replica { s with settings := some settings } settings hr rfl).trans
        (h.settings s settings hs)
  · rfl

theorem keeps_replicated? (p : Package) (file : String) (copies : Argument) :
    Keeps view (replicated? p file copies) := by
  unfold replicated?
  simp only
  split
  · split
    · exact (LooksOnly.throw _).keepsView
    · exact keeps_pure _
  refine h.keeps_currentReplica.bind (fun replica => ?_)
  split
  · refine (LooksOnly.orFault _ _).keepsView.bind (fun cached => ?_)
    split
    · refine (LooksOnly.orFault _ _).keepsView.bind (fun dir => ?_)
      refine (looksOnly_pathInside dir file).keepsView.bind (fun path => ?_)
      refine (looksOnly_isFile path).keepsView.bind (fun there => ?_)
      split
      · exact keeps_pure _
      · exact keeps_pure _
    · exact keeps_pure _
  · exact keeps_pure _

theorem keeps_searchPackage (package pattern root flags context limit copies : Argument) :
    Keeps view (searchPackage package pattern root flags context limit copies) := by
  refine (looksOnly_requireRange _ _ _ _).keepsView.bind (fun context => ?_)
  refine h.keeps_currentSettings.bind (fun settings => ?_)
  refine (looksOnly_requireRange _ _ _ _).keepsView.bind (fun limit => ?_)
  refine (looksOnly_findPackage package root).keepsView.bind (fun found => ?_)
  rcases found with _ | p
  · exact keeps_pure _
  simp only
  split
  · exact (LooksOnly.throw _).keepsView
  · split
    · exact keeps_pure _
    · exact (LooksOnly.throw _).keepsView
  · split
    · exact (LooksOnly.throw _).keepsView
    · refine h.keeps_currentReplica.bind (fun replica s => ?_)
      rw [outcome_bind, outcome_get]
      exact ((LooksOnly.orFault _ _).keepsView.bind (fun hits => keeps_pure _) : Keeps view _) s

theorem keeps_readFile (package file root start count copies : Argument) :
    Keeps view (readFile package file root start count copies) := by
  refine (keeps_rangeIfGiven (keeps_pure _) _ _ _).bind (fun first => ?_)
  refine (keeps_rangeIfGiven (h.keeps_currentSettings.bind (fun _ => keeps_pure _)) _ _ _).bind
    (fun number => ?_)
  refine (looksOnly_findPackage package root).keepsView.bind (fun found => ?_)
  rcases found with _ | p
  · exact keeps_pure _
  refine (looksOnly_requireText _ _).keepsView.bind (fun text => ?_)
  refine (looksOnly_pathInside _ _).keepsView.bind (fun inside => ?_)
  refine (h.keeps_replicated? _ _ _).bind (fun copy => ?_)
  refine (looksOnly_isFile _).keepsView.bind (fun there => ?_)
  split
  · exact (keeps_readRange h.keeps_currentSettings _ _ _).bind (fun _ => keeps_pure _)
  · exact keeps_pure _

end OverlooksSetup

/-! ### What is remembered of declarations -/

/-- A view of sessions does not show the indexes either. -/
structure Overlooks (view : Session → γ) : Prop extends OverlooksSetup view where
  index : ∀ s index, view { s with index := index } = view s

/-- The settings that a session goes by are the same once they are remembered. -/
theorem overlooks_config : Overlooks Session.config where
  settings s settings hs := by
    rw [hs]
    rfl
  replica _ _ _ _ := rfl
  index _ _ := rfl

namespace Overlooks

variable {view : Session → γ} (h : Overlooks view)

include h

theorem keeps_indexOf (p : Package) : Keeps view (indexOf p) := by
  refine keeps_indexBy (fun s index _ => h.index s index) ?_
  refine keeps_builder _ (fun s settings hs _ => ?_)
  exact (h.index { s with settings := some settings } _).trans (h.settings s settings hs)

theorem keeps_findIndexed (name root indexes : Argument) :
    Keeps view (findIndexed name root indexes) := by
  refine (looksOnly_findPackage name root).keepsView.bind (fun found => ?_)
  rcases found with _ | p
  · exact keeps_pure _
  · simp only
    split
    · refine (LooksOnly.throw _).keepsView.bind (fun _ => ?_)
      exact (h.keeps_indexOf p).bind (fun _ => keeps_pure _)
    · exact (h.keeps_indexOf p).bind (fun _ => keeps_pure _)

theorem keeps_listDeclarations (package root kind name limit indexes : Argument) :
    Keeps view (listDeclarations package root kind name limit indexes) := by
  intro s
  show view (s.after _) = view s
  rw [after_listDeclarations]
  refine h.keeps_currentSettings.bind (fun settings => ?_) s
  refine (looksOnly_requireRange _ _ _ _).keepsView.bind (fun limit => ?_)
  exact (LooksOnly.orFault _ _).keepsView.bind (fun kind => h.keeps_findIndexed package root indexes)

theorem keeps_readDeclaration (package file name root padding indexes : Argument) :
    Keeps view (readDeclaration package file name root padding indexes) := by
  intro s
  show view (s.after _) = view s
  rw [after_readDeclaration]
  exact (looksOnly_requireRange _ _ _ _).keepsView.bind
    (fun padding => h.keeps_findIndexed package root indexes) s

/-- **Tools only remember.** -/
theorem keeps_run (request : Request) : Keeps view request.run := by
  cases request with
  | packages root filter => exact keeps_listPackages root filter
  | search => exact h.keeps_searchPackage _ _ _ _ _ _ _
  | file => exact h.keeps_readFile _ _ _ _ _ _
  | declarations => exact h.keeps_listDeclarations _ _ _ _ _ _
  | declaration => exact h.keeps_readDeclaration _ _ _ _ _ _
  | stats indexes => exact keeps_countIndexes indexes

theorem invoke_eq (name : Name) (args : Arguments) (s : Session) :
    view (name.invoke args s).2 = view s := by
  rw [Tool.invoke_eq]
  rcases name.signature.check (args.map Prod.fst) with e | ⟨⟩
  · rfl
  · have hrun := h.keeps_run (name.request args) s
    simp only
    rcases hr : outcome (name.request args).run s with ⟨e | answer, t⟩
    · rw [hr] at hrun
      exact hrun
    · rw [hr] at hrun
      exact hrun

theorem call_eq {name : String} {args : Arguments} {response : Response}
    (hcall : call name args s = .ok (response, t)) : view t = view s := by
  unfold call at hcall
  split at hcall
  · simp at hcall
  · split at hcall
    · have heq := Except.ok.inj hcall
      rw [← show (Name.invoke _ args s).2 = t from congrArg Prod.snd heq]
      exact h.invoke_eq _ args s
    · rw [(Prod.mk.inj (Except.ok.inj hcall)).2]

end Overlooks

end PackageAtlas.Tool
