import ClientGen.Proofs.Client.DeclarationText
import ClientGen.Proofs.Client.Declarations
import Mathlib.Tactic.Tauto

namespace ClientGen

open Emitter Client

/-- A client file in parts: what stands before its iterators, the level that this leaves, and the
elements whose iterators are declared. -/
structure Sheet where
  name : String
  header : String
  methods : String
  level : Nat
  elements : List Element

namespace Sheet

/-- Declarations one after the other. A type that ends in a brace leaves those after it deeper. -/
def declarationText (level : Nat) : List Element → String
  | [] => ""
  | element :: elements =>
    written level element.declaration ++
      declarationText (level + 2 * element.typeOpeners) elements

def file (sheet : Sheet) : OutputFile where
  name := sheet.name
  content := sheet.header ++ (sheet.methods ++ declarationText sheet.level sheet.elements)

def without (declared : List String) (sheet : Sheet) : Sheet :=
  { sheet with elements := sheet.elements.filter (·.iterator ∉ declared) }

/-- Sheets one after the other, each without the iterators that those before it declare. -/
def leaveOut (declared : List String) : List Sheet → List Sheet
  | [] => []
  | sheet :: sheets =>
    sheet.without declared ::
      leaveOut (iterators (sheet.without declared).elements ++ declared) sheets

def package (options : Options) (sheets : List Sheet) : List OutputFile :=
  if sheets.isEmpty then [] else sheets.map file ++ [Doc.outputFile options]

variable {options : Options} {declared declared' : List String} {client : Client}
  {clients : List Client} {level : Nat} {elements : List Element}

theorem written_declarations :
    written level (elements.flatMap Element.declaration) = declarationText level elements := by
  induction elements generalizing level with
  | nil => rfl
  | cons element elements ih =>
    rw [List.flatMap_cons, written_append, element.rises_declaration, ih, declarationText]

/-- If no type ends in a brace, each declaration has a text of its own. -/
theorem declarationText_of_typeOpeners (h : ∀ element ∈ elements, element.typeOpeners = 0) :
    declarationText level elements = String.join (elements.map fun element =>
      written level element.declaration) := by
  induction elements with
  | nil => rfl
  | cons element elements ih =>
    rw [declarationText, h element List.mem_cons_self, Nat.mul_zero, Nat.add_zero, List.map_cons,
      String.join_cons, ih fun element he => h element (List.mem_cons_of_mem _ he)]

theorem content_without_of_typeOpeners {sheet : Sheet}
    (h : ∀ element ∈ sheet.elements, element.typeOpeners = 0) :
    (sheet.without declared).file.content = sheet.header ++ (sheet.methods ++
      String.join ((sheet.elements.filter (·.iterator ∉ declared)).map fun element =>
        written sheet.level element.declaration)) := by
  rw [← declarationText_of_typeOpeners fun element he => h element (List.mem_filter.mp he).1]
  rfl

def ofClient (options : Options) (declared : List String) (client : Client) : Sheet where
  name := client.fileName options
  header := client.header options
  methods := written 0 (client.scaffold ++ client.calls.flatMap client.method)
  level := levelAfter 0 (client.scaffold ++ client.calls.flatMap client.method)
  elements := newElements declared client.elements

theorem file_ofClient :
    (ofClient options declared client).file = client.outputFile options declared := by
  have hbody : client.body declared =
      written 0 (client.scaffold ++ client.calls.flatMap client.method) ++
        declarationText (levelAfter 0 (client.scaffold ++ client.calls.flatMap client.method))
          (newElements declared client.elements) := by
    rw [Client.body, render_eq, ← written_declarations, ← written_append]
    simp [Code.seq]
  rw [Client.outputFile, hbody]
  rfl

theorem ofClient_congr (h : ∀ name, name ∈ declared ↔ name ∈ declared') :
    ofClient options declared client = ofClient options declared' client := by
  simp only [ofClient, newElements_congr h]

theorem without_ofClient (h : ∀ name ∈ declared', name ∈ declared) :
    (ofClient options declared' client).without declared = ofClient options declared client := by
  have hnew : newElements declared client.elements =
      newElements (declared ++ declared') client.elements := by
    refine newElements_congr fun name => ?_
    rw [List.mem_append]
    exact ⟨.inl, fun hn => hn.elim id (h name)⟩
  simp only [without, ofClient, hnew, newElements_append_declared]

def ofClients (options : Options) (declared : List String) : List Client → List Sheet
  | [] => []
  | client :: clients =>
    ofClient options declared client ::
      ofClients options (iterators client.elements ++ declared) clients

theorem map_file_ofClients :
    (ofClients options declared clients).map file = outputFiles options declared clients := by
  induction clients generalizing declared with
  | nil => rfl
  | cons client clients ih => rw [ofClients, List.map_cons, file_ofClient, ih, outputFiles]

theorem package_ofClients :
    package options (ofClients options [] clients) = Run.packageFiles options clients := by
  unfold package Run.packageFiles
  rw [map_file_ofClients]
  cases clients with
  | nil => rfl
  | cons client clients => rfl

theorem ofClients_congr (h : ∀ name, name ∈ declared ↔ name ∈ declared') :
    ofClients options declared clients = ofClients options declared' clients := by
  induction clients generalizing declared declared' with
  | nil => rfl
  | cons client clients ih =>
    rw [ofClients, ofClients, ofClient_congr h]
    congr 1
    refine ih fun name => ?_
    rw [List.mem_append, List.mem_append, h]

theorem leaveOut_congr {sheets : List Sheet} (h : ∀ name, name ∈ declared ↔ name ∈ declared') :
    leaveOut declared sheets = leaveOut declared' sheets := by
  induction sheets generalizing declared declared' with
  | nil => rfl
  | cons sheet sheets ih =>
    have hwithout : sheet.without declared = sheet.without declared' := by simp only [without, h]
    rw [leaveOut, leaveOut, hwithout]
    congr 1
    refine ih fun name => ?_
    rw [List.mem_append, List.mem_append, h]

theorem leaveOut_append {sheets more : List Sheet} :
    leaveOut declared (sheets ++ more) = leaveOut declared sheets ++
      leaveOut (iterators ((leaveOut declared sheets).flatMap (·.elements)) ++ declared) more := by
  induction sheets generalizing declared with
  | nil => rfl
  | cons sheet sheets ih =>
    rw [List.cons_append, leaveOut, leaveOut, ih, List.cons_append, List.flatMap_cons]
    congr 2
    refine leaveOut_congr fun name => ?_
    simp only [List.map_append, List.mem_append]
    tauto

theorem ofClients_append {more : List Client} :
    ofClients options declared (clients ++ more) = ofClients options declared clients ++
      ofClients options (iterators (clients.flatMap (·.elements)) ++ declared) more := by
  induction clients generalizing declared with
  | nil => rfl
  | cons client clients ih =>
    rw [List.cons_append, ofClients, ofClients, ih, List.cons_append, List.flatMap_cons]
    congr 2
    refine ofClients_congr fun name => ?_
    simp only [List.map_append, List.mem_append]
    tauto

theorem elements_ofClients : (ofClients options declared clients).flatMap (·.elements) =
    newElements declared (clients.flatMap (·.elements)) := by
  induction clients generalizing declared with
  | nil => rfl
  | cons client clients ih =>
    rw [ofClients, List.flatMap_cons, ih, List.flatMap_cons, newElements_append]
    rfl

/-- Sheets that were made when fewer iterators were declared are still of use. -/
theorem leaveOut_ofClients (h : ∀ name ∈ declared', name ∈ declared) :
    leaveOut declared (ofClients options declared' clients) = ofClients options declared clients := by
  induction clients generalizing declared declared' with
  | nil => rfl
  | cons client clients ih =>
    rw [ofClients, leaveOut, without_ofClient h, ofClients]
    congr 1
    -- the names that are known after this client are the same, whether the sheet listed them or not
    have hnew (name : String) : name ∈ iterators (ofClient options declared client).elements ↔
        name ∈ iterators client.elements ∧ name ∉ declared := mem_iterators_newElements
    rw [ih]
    · refine ofClients_congr fun name => ?_
      rw [List.mem_append, List.mem_append, hnew]
      tauto
    · intro name hn
      rw [List.mem_append] at hn
      rw [List.mem_append, hnew]
      have := h name
      tauto

/-- The sheets of groups of clients are those of each group alone, without what groups before it
declare. -/
theorem leaveOut_flatMap_ofClients (groups : List (List Client)) :
    leaveOut declared (groups.flatMap (ofClients options [])) =
      ofClients options declared groups.flatten := by
  induction groups generalizing declared with
  | nil => rfl
  | cons group groups ih =>
    have hgroup : leaveOut declared (ofClients options [] group) = ofClients options declared group :=
      leaveOut_ofClients (by simp)
    rw [List.flatMap_cons, leaveOut_append, hgroup, ih, List.flatten_cons, ofClients_append,
      elements_ofClients]
    congr 1
    refine ofClients_congr fun name => ?_
    rw [List.mem_append, List.mem_append, mem_iterators_newElements]
    tauto

end Sheet

namespace Client

variable {options : Options} {declared declared' : List String} {clients : List Client}

theorem outputFiles_congr (h : ∀ name, name ∈ declared ↔ name ∈ declared') :
    outputFiles options declared clients = outputFiles options declared' clients := by
  rw [← Sheet.map_file_ofClients, Sheet.ofClients_congr h, Sheet.map_file_ofClients]

theorem outputFiles_append {more : List Client} :
    outputFiles options declared (clients ++ more) = outputFiles options declared clients ++
      outputFiles options (iterators (clients.flatMap (·.elements)) ++ declared) more := by
  rw [← Sheet.map_file_ofClients, Sheet.ofClients_append, List.map_append, Sheet.map_file_ofClients,
    Sheet.map_file_ofClients]

end Client

end ClientGen
