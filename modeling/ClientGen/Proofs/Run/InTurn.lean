import ClientGen.Proofs.Client.Pages
import ClientGen.Proofs.Client.Sheet

namespace ClientGen

open Schema Client

/-- Work that may fail, in a run that remembers which iterators it has declared. What was declared
before a failure stays declared. -/
abbrev Declaring := EStateM Fault (List String)

namespace Declaring

variable {α β : Type}

def attempt (x : Except Fault α) : Declaring α :=
  match x with
  | .ok a => pure a
  | .error fault => throw fault

theorem run_bind_of_ok {x : Declaring α} {f : α → Declaring β}
    {declared declared' : List String} {a : α}
    (h : x.run declared = .ok a declared') : (x >>= f).run declared = (f a).run declared' := by
  rw [EStateM.run_bind, h]

theorem run_bind_of_error {x : Declaring α} {f : α → Declaring β} {declared declared' : List String}
    {fault : Fault} (h : x.run declared = .error fault declared') :
    (x >>= f).run declared = .error fault declared' := by
  rw [EStateM.run_bind, h]

theorem run_attempt_of_ok {x : Except Fault α} {a : α} (h : x = .ok a) (declared : List String) :
    (attempt x).run declared = .ok a declared := by
  rw [h]
  rfl

theorem run_attempt_of_error {x : Except Fault α} {fault : Fault} (h : x = .error fault)
    (declared : List String) : (attempt x).run declared = .error fault declared := by
  rw [h]
  rfl

end Declaring

namespace ImportSet

variable {set : ImportSet}

theorem insert_of_mem {spec : ImportSpec} (h : spec ∈ set.specs) : set.insert spec = set := by
  rw [insert, dif_pos h]

theorem foldl_insert_of_subset {specs : List ImportSpec} (h : ∀ spec ∈ specs, spec ∈ set.specs) :
    specs.foldl insert set = set := by
  induction specs with
  | nil => rfl
  | cons spec specs ih =>
    rw [List.foldl_cons, insert_of_mem (h spec List.mem_cons_self)]
    exact ih fun spec hs => h spec (List.mem_cons_of_mem _ hs)

end ImportSet

open Declaring

structure Draft where
  imports : ImportSet
  code : Code

namespace Draft

/-- Declares the iterator over what a page holds, unless the run has declared it. For that the type
is looked up again and imported. -/
def declare (catalog : Catalog) (draft : Draft) (page : PageElement) : Declaring Draft := do
  if page.iteratorName ∈ (← get) then return draft
  modify (page.iteratorName :: ·)
  let element ← attempt (Element.resolve catalog page)
  return {
    imports := element.imports.foldl .insert (draft.imports.insert ClientImport.iterator)
    code := draft.code ++ element.declaration }

variable {catalog : Catalog} {draft : Draft} {declared : List String}

theorem run_declare_of_mem {page : PageElement} (h : page.iteratorName ∈ declared) :
    (declare catalog draft page).run declared = .ok draft declared := by
  rw [declare, run_bind_of_ok (x := get) rfl, if_pos h]
  rfl

/-- What a declaration looks up and imports, its method has looked up and imported. -/
theorem run_declare_of_notMem {page : PageElement} {element : Element}
    (h : page.iteratorName ∉ declared) (he : Element.resolve catalog page = .ok element)
    (hi : ∀ spec ∈ ClientImport.iterator :: element.imports, spec ∈ draft.imports.specs) :
    (declare catalog draft page).run declared =
      .ok { draft with code := draft.code ++ element.declaration }
        (page.iteratorName :: declared) := by
  have himports : element.imports.foldl .insert (draft.imports.insert ClientImport.iterator) =
      draft.imports := by
    rw [← List.foldl_cons]
    exact ImportSet.foldl_insert_of_subset hi
  rw [declare, run_bind_of_ok (x := get) rfl, if_neg h]
  rw [run_bind_of_ok (x := modify (page.iteratorName :: ·)) rfl]
  rw [run_bind_of_ok (run_attempt_of_ok he _), himports]
  rfl

theorem run_foldlM_declare {pages : List PageElement} {elements : List Element}
    (h : List.Forall₂ (fun page element => Element.resolve catalog page = .ok element) pages elements)
    (hi : ∀ element ∈ elements, ∀ spec ∈ ClientImport.iterator :: element.imports,
      spec ∈ draft.imports.specs) :
    (pages.foldlM (declare catalog) draft).run declared =
      .ok { draft with code := draft.code ++
        (newElements declared elements).flatMap Element.declaration }
        ((iterators (newElements declared elements)).reverse ++ declared) := by
  induction h generalizing draft declared with
  | nil => simp [newElements]
  | @cons page element pages elements he _ ih =>
    have hname := Element.resolve_iterator he
    have htail : ∀ element ∈ elements, ∀ spec ∈ ClientImport.iterator :: element.imports,
        spec ∈ draft.imports.specs := fun element hm => hi element (List.mem_cons_of_mem _ hm)
    rw [List.foldlM_cons]
    by_cases hd : page.iteratorName ∈ declared
    · rw [run_bind_of_ok (run_declare_of_mem hd), ih htail, newElements_of_mem (hname ▸ hd)]
    · rw [run_bind_of_ok (run_declare_of_notMem hd he (hi _ List.mem_cons_self))]
      refine (@ih { draft with code := draft.code ++ element.declaration } _ htail).trans ?_
      rw [newElements_of_notMem (hname ▸ hd)]
      simp [hname, List.append_assoc]

end Draft

namespace Run

def writeClient (catalog : Catalog) (options : Options) (file : File) (service : Service) :
    Declaring OutputFile := do
  let client ← attempt (Client.resolve catalog options file service)
  let draft ← (pages catalog service).foldlM (Draft.declare catalog)
    ⟨client.imports, client.scaffold ++ client.calls.flatMap client.method⟩
  return {
    name := client.fileName options
    content := Emitter.render (Header.code options draft.imports none) ++ Emitter.render draft.code }

def writeFile (catalog : Catalog) (options : Options) (name : String) :
    Declaring (List OutputFile) := do
  let some file := catalog.file? name | throw (.unknownFile name)
  file.services.mapM (writeClient catalog options file)

structure Progress where
  declared : List String := []
  files : List OutputFile := []
  error : Option String := none

/-- Writes the clients of one more file. After a failure the run goes on, and the first failure is
kept. -/
def Progress.next (catalog : Catalog) (options : Options) (progress : Progress) (name : String) :
    Progress :=
  match (writeFile catalog options name).run progress.declared with
  | .ok files declared => { progress with declared, files := progress.files ++ files }
  | .error fault declared =>
    { progress with declared, error := progress.error <|> some s!"{name}: {fault.message}" }

def generateInTurn (files : List File) (names : List String) (options : Options) : Output :=
  let progress := names.foldl (Progress.next (.ofFiles files) options) {}
  match progress.error with
  | some error => { error := some error }
  | none =>
    if progress.files.isEmpty then {}
    else { files := progress.files ++ [Doc.outputFile options] }

variable {catalog : Catalog} {options : Options} {file : File} {service : Service} {client : Client}
  {declared : List String}

theorem run_writeClient_of_ok (h : Resolved catalog options file service client) :
    (writeClient catalog options file service).run declared =
      .ok (client.outputFile options declared)
        ((iterators (newElements declared client.elements)).reverse ++ declared) := by
  have himports : ∀ element ∈ client.elements, ∀ spec ∈ ClientImport.iterator :: element.imports,
      spec ∈ client.imports.specs := fun _ he _ hs => client.mem_imports_of_element he hs
  rw [writeClient, run_bind_of_ok (run_attempt_of_ok (resolve_eq_ok_iff.mpr h) _)]
  rw [run_bind_of_ok (Draft.run_foldlM_declare h.forall₂_pages himports)]
  simp [Client.outputFile, Client.header, Client.body, Code.seq]

theorem run_writeClient_of_error {fault : Fault}
    (h : Client.resolve catalog options file service = .error fault) :
    (writeClient catalog options file service).run declared = .error fault declared := by
  rw [writeClient, run_bind_of_error (run_attempt_of_error h _)]

theorem run_mapM_of_ok {services : List Service} {clients : List Client}
    (h : List.Forall₂ (Resolved catalog options file) services clients) :
    ∃ declared', (services.mapM (writeClient catalog options file)).run declared =
        .ok (outputFiles options declared clients) declared' ∧
      ∀ name, name ∈ declared' ↔ name ∈ iterators (clients.flatMap (·.elements)) ++ declared := by
  induction h generalizing declared with
  | nil => exact ⟨declared, rfl, by simp⟩
  | @cons service client services clients hc _ ih =>
    obtain ⟨declared', hrun, hmem⟩ :=
      @ih ((iterators (newElements declared client.elements)).reverse ++ declared)
    -- the record lists new names only, and `outputFiles` all names of a client
    have hstate (name : String) :
        name ∈ (iterators (newElements declared client.elements)).reverse ++ declared ↔
          name ∈ iterators client.elements ++ declared := by
      rw [List.mem_append, List.mem_reverse, mem_iterators_newElements, List.mem_append]
      tauto
    refine ⟨declared', ?_, fun name => ?_⟩
    · rw [List.mapM_cons, run_bind_of_ok (run_writeClient_of_ok hc), run_bind_of_ok hrun,
        outputFiles, outputFiles_congr hstate]
      rfl
    · rw [hmem, List.mem_append, hstate, List.flatMap_cons]
      simp only [List.map_append, List.mem_append]
      tauto

theorem run_mapM_of_error {services : List Service} {fault : Fault}
    (h : services.mapM (Client.resolve catalog options file) = .error fault) :
    ∃ declared', (services.mapM (writeClient catalog options file)).run declared =
      .error fault declared' := by
  induction services generalizing declared with
  | nil => cases h
  | cons service services ih =>
    rw [List.mapM_cons]
    cases hc : Client.resolve catalog options file service with
    | error fault' =>
      rw [Except.mapM_cons_of_error hc] at h
      cases h
      exact ⟨declared, run_bind_of_error (run_writeClient_of_error hc)⟩
    | ok client =>
      rw [Except.mapM_cons_of_ok hc, Except.map_eq_error_iff] at h
      obtain ⟨declared', hrun⟩ := @ih
        ((iterators (newElements declared client.elements)).reverse ++ declared) h
      refine ⟨declared', ?_⟩
      rw [run_bind_of_ok (run_writeClient_of_ok (resolve_eq_ok_iff.mp hc))]
      exact run_bind_of_error hrun

theorem run_writeFile_of_ok {name : String} {group : List Client}
    (h : clientsOf catalog options name = .ok group) (declared : List String) :
    ∃ declared', (writeFile catalog options name).run declared =
        .ok (outputFiles options declared group) declared' ∧
      ∀ name, name ∈ declared' ↔ name ∈ iterators (group.flatMap (·.elements)) ++ declared := by
  obtain ⟨file, hf, hgroup⟩ := clientsOf_eq_ok_iff.mp h
  rw [writeFile, hf]
  exact run_mapM_of_ok hgroup

theorem run_writeFile_of_error {name : String} {fault : Fault}
    (h : clientsOf catalog options name = .error fault) (declared : List String) :
    ∃ declared', (writeFile catalog options name).run declared = .error fault declared' := by
  unfold clientsOf at h
  unfold writeFile
  cases hf : catalog.file? name with
  | none =>
    rw [hf] at h
    cases h
    exact ⟨declared, rfl⟩
  | some file =>
    rw [hf] at h
    exact run_mapM_of_error h

theorem error_foldl_next (names : List String) {progress : Progress} {error : String}
    (h : progress.error = some error) :
    (names.foldl (Progress.next catalog options) progress).error = some error := by
  induction names generalizing progress with
  | nil => exact h
  | cons name names ih =>
    refine ih ?_
    unfold Progress.next
    split
    · exact h
    · rw [h]
      rfl

theorem foldl_next_of_ok {names : List String} {clients : List Client}
    (h : Run.clients catalog options names = .ok clients) (progress : Progress) :
    ∃ declared, names.foldl (Progress.next catalog options) progress =
      { progress with
        declared
        files := progress.files ++ outputFiles options progress.declared clients } := by
  induction names generalizing clients progress with
  | nil =>
    cases h
    exact ⟨progress.declared, by simp [outputFiles]⟩
  | cons name names ih =>
    obtain ⟨group, rest, hg, hrest, rfl⟩ := clients_cons_eq_ok_iff.mp h
    obtain ⟨declared, hrun, hmem⟩ := run_writeFile_of_ok hg progress.declared
    have hnext : Progress.next catalog options progress name =
        { progress with
          declared
          files := progress.files ++ outputFiles options progress.declared group } := by
      rw [Progress.next, hrun]
    obtain ⟨declared', htail⟩ := ih hrest (Progress.next catalog options progress name)
    refine ⟨declared', ?_⟩
    rw [List.foldl_cons, htail, hnext, outputFiles_append]
    simp only [List.append_assoc, outputFiles_congr hmem]

theorem foldl_next_of_error {names : List String} {error : String}
    (h : Run.clients catalog options names = .error error) (progress : Progress)
    (hp : progress.error = none) :
    (names.foldl (Progress.next catalog options) progress).error = some error := by
  induction names generalizing progress with
  | nil => cases h
  | cons name names ih =>
    rw [List.foldl_cons]
    obtain ⟨fault, hg, rfl⟩ | ⟨group, hg, h⟩ := clients_cons_eq_error_iff.mp h
    · obtain ⟨declared, hrun⟩ := run_writeFile_of_error hg progress.declared
      refine error_foldl_next names ?_
      rw [Progress.next, hrun]
      dsimp only
      rw [hp]
      rfl
    · obtain ⟨declared, hrun, _⟩ := run_writeFile_of_ok hg progress.declared
      refine ih h _ ?_
      rw [Progress.next, hrun]
      exact hp

/-- Which iterators are declared has no effect on success, errors and headers of a run, although the
record of them is kept through failures and decides which types are looked up and imported again. -/
theorem generateInTurn_eq_generateWith (files : List File) (names : List String) (options : Options) :
    generateInTurn files names options = generateWith files names options := by
  unfold generateInTurn generateWith
  cases h : Run.clients (.ofFiles files) options names with
  | error error =>
    dsimp only
    rw [foldl_next_of_error h {} rfl]
  | ok clients =>
    obtain ⟨declared, hfold⟩ := foldl_next_of_ok h {}
    dsimp only
    rw [hfold]
    cases clients <;> rfl

end Run

end ClientGen
