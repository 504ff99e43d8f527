import ClientGen.Proofs.Catalog.Comments
import ClientGen.Proofs.Client.Comments
import ClientGen.Proofs.Client.Resolved

namespace ClientGen

open Schema Catalog

namespace Client

variable {c d : Catalog} {options : Options} {file other : File} {service : Service}

theorem shapeOf_eq_of_same (h : c.Same d) : shapeOf c = shapeOf d := by
  funext method
  rw [shapeOf, shapeOf, h.message]

theorem exchange_eq_of_same (h : c.Same d) : Exchange.resolve c = Exchange.resolve d := by
  have helement : Element.resolve c = Element.resolve d := by
    funext page
    cases page with
    | message typeName => rw [Element.resolve, Element.resolve, h.goType]
    | scalar goType stem => rfl
  funext method shape
  cases shape <;> simp only [Exchange.resolve, h.goType, helement]

theorem resolveCall_of_same (h : c.Same d) (name other : String) (method : Method)
    (shape : CallShape) :
    (fun call : Call => { call with doc := none }) <$> resolveCall c name method shape =
      (fun call : Call => { call with doc := none }) <$> resolveCall d other method shape := by
  rw [resolveCall, resolveCall, exchange_eq_of_same h]
  cases Exchange.resolve d method shape <;> rfl

/-- Comments do not decide whether a client can be resolved, or what its code refers to. -/
theorem resolve_of_same (h : c.Same d) (hf : file.unlocated = other.unlocated) :
    undocumented <$> resolve c options file service =
      undocumented <$> resolve d options other service := by
  have hscope (file : File) : service.fullName file = service.fullName file.unlocated := rfl
  have hname : service.fullName file = service.fullName other := by rw [hscope file, hscope other, hf]
  unfold resolve
  rw [shapeOf_eq_of_same h, hname]
  cases service.methods.mapM fun method => return (method, ← shapeOf d method) with
  | error fault => rfl
  | ok shaped =>
    cases service.defaultHost with
    | none => rfl
    | some host =>
      change undocumented <$> (ClientImport.ofFile file >>= _) =
        undocumented <$> (ClientImport.ofFile other >>= _)
      rw [ofFile_eq_of_unlocated_eq hf]
      cases ClientImport.ofFile other with
      | error fault => rfl
      | ok stub =>
        have hcalls := Except.map_mapM_congr shaped fun pair =>
          resolveCall_of_same h (service.fullName other) (service.fullName other) pair.1 pair.2
        change undocumented <$> (shaped.mapM (fun pair => resolveCall c _ pair.1 pair.2) >>= _) =
          undocumented <$> (shaped.mapM (fun pair => resolveCall d _ pair.1 pair.2) >>= _)
        cases hc : shaped.mapM fun pair => resolveCall c (service.fullName other) pair.1 pair.2 with
        | error fault =>
          rw [hc, eq_comm] at hcalls
          rw [Except.map_eq_error_iff.mp hcalls]
          rfl
        | ok calls =>
          rw [hc, eq_comm] at hcalls
          obtain ⟨calls', hd, he⟩ := Except.map_eq_ok_iff.mp hcalls
          rw [hd]
          change Except.ok (undocumented _) = Except.ok (undocumented _)
          unfold undocumented
          rw [he]

end Client

namespace Run

open Client

variable {c d : Catalog} {options : Options} {files others : List File} {names : List String}

theorem clientsOf_of_same (h : c.Same d) (options : Options) (name : String) :
    List.map undocumented <$> clientsOf c options name =
      List.map undocumented <$> clientsOf d options name := by
  have hname := h.files name
  unfold clientsOf
  cases hc : c.file? name with
  | none =>
    rw [hc, Option.map_none, eq_comm, Option.map_eq_none_iff] at hname
    rw [hname]
  | some file =>
    rw [hc, Option.map_some, eq_comm, Option.map_eq_some_iff] at hname
    obtain ⟨other, hd, hf⟩ := hname
    have hservices (file : File) : file.services = file.unlocated.services := rfl
    rw [hd]
    change List.map undocumented <$> file.services.mapM (Client.resolve c options file) =
      List.map undocumented <$> other.services.mapM (Client.resolve d options other)
    rw [hservices file, hservices other, hf]
    exact Except.map_mapM_congr _ fun service => resolve_of_same h hf.symm

theorem clients_of_same (h : c.Same d) (options : Options) (names : List String) :
    List.map undocumented <$> Run.clients c options names =
      List.map undocumented <$> Run.clients d options names := by
  have hgroups : List.map (List.map undocumented) <$> names.mapM (outcome c options) =
      List.map (List.map undocumented) <$> names.mapM (outcome d options) := by
    refine Except.map_mapM_congr names fun name => ?_
    have herror (x : Except Fault (List Client)) (f : Fault → String) :
        List.map undocumented <$> x.mapError f = (List.map undocumented <$> x).mapError f := by
      cases x <;> rfl
    rw [outcome, outcome, herror, clientsOf_of_same h options name, ← herror]
  have hflatten (groups : Except String (List (List Client))) :
      List.map undocumented <$> List.flatten <$> groups =
        List.flatten <$> List.map (List.map undocumented) <$> groups := by
    cases groups <;> simp [Functor.map, Except.map, List.map_flatten]
  rw [clients_eq, clients_eq, hflatten, hgroups, ← hflatten]

def relocated (locations : Nat → List Location) (files : List File) : List File :=
  files.mapIdx fun i file => { file with locations := locations i }

def codeOf (file : OutputFile) : String × List (List Char) :=
  (file.name, codeLines file.content.toList)

theorem map_codeOf_outputFiles {declared : List String} {clients : List Client} :
    (outputFiles options declared (clients.map undocumented)).map codeOf =
      (outputFiles options declared clients).map codeOf := by
  induction clients generalizing declared with
  | nil => rfl
  | cons client clients ih =>
    obtain ⟨hname, hlines⟩ := client.codeLines_outputFile options declared
    have hcode : codeOf (client.undocumented.outputFile options declared) =
        codeOf (client.outputFile options declared) := by
      rw [codeOf, codeOf, hname, hlines]
    rw [List.map_cons, outputFiles, outputFiles, List.map_cons, List.map_cons, ih, hcode,
      elements_undocumented]

theorem map_codeOf_packageFiles {clients clients' : List Client}
    (h : clients.map undocumented = clients'.map undocumented) :
    (packageFiles options clients).map codeOf = (packageFiles options clients').map codeOf := by
  have hempty : clients.isEmpty = clients'.isEmpty := by
    rw [← List.isEmpty_map (f := undocumented), h, List.isEmpty_map]
  have hfiles : (outputFiles options [] clients).map codeOf =
      (outputFiles options [] clients').map codeOf := by
    rw [← map_codeOf_outputFiles, h, map_codeOf_outputFiles]
  unfold packageFiles
  rw [hempty]
  split
  · rfl
  · rw [List.map_append, List.map_append, hfiles]

theorem generateWith_of_same (h : (Catalog.ofFiles files).Same (.ofFiles others)) :
    (generateWith files names options).error = (generateWith others names options).error ∧
      (generateWith files names options).files.map codeOf =
        (generateWith others names options).files.map codeOf := by
  have hclients := clients_of_same h options names
  unfold generateWith
  cases hc : Run.clients (.ofFiles files) options names with
  | error error =>
    rw [hc, eq_comm] at hclients
    rw [Except.map_eq_error_iff.mp hclients]
    exact ⟨rfl, rfl⟩
  | ok clients =>
    rw [hc, eq_comm] at hclients
    obtain ⟨clients', hd, he⟩ := Except.map_eq_ok_iff.mp hclients
    rw [hd]
    exact ⟨rfl, map_codeOf_packageFiles he.symm⟩

/-- Whatever the comments of the files are, a run has the same error, and files of the same names
with the same lines apart from those that are comments. -/
theorem generateWith_relocated (files : List File) (names : List String) (options : Options)
    (locations : Nat → List Location) :
    (generateWith (relocated locations files) names options).error =
        (generateWith files names options).error ∧
      (generateWith (relocated locations files) names options).files.map codeOf =
        (generateWith files names options).files.map codeOf := by
  have hbare : (relocated locations files).map File.unlocated = files.map File.unlocated := by
    apply List.ext_getElem
    · simp [relocated]
    · intro i _ _
      simp only [relocated, List.getElem_map, List.getElem_mapIdx]
      rfl
  exact generateWith_of_same (Catalog.same_ofFiles hbare)

end Run

end ClientGen
