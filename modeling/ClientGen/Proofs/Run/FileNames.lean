import ClientGen.Proofs.Client.Declarations
import ClientGen.Proofs.Client.Resolved
import Mathlib.Data.List.Nodup

namespace ClientGen

open Schema

theorem Options.outputFile_injective (options : Options) : Function.Injective options.outputFile := by
  intro a b h
  unfold outputFile at h
  dsimp only at h
  split at h
  · exact h
  · exact String.append_right_inj _ |>.mp h

namespace Run

open Client

variable {files : List File} {options : Options} {names : List String} {clients : List Client}

def requested (files : List File) (names : List String) : List Service :=
  names.flatMap fun name => (((Catalog.ofFiles files).file? name).map (·.services)).getD []

theorem map_service_clients (h : Run.clients (.ofFiles files) options names = .ok clients) :
    clients.map (·.service) = requested files names := by
  obtain ⟨groups, hgroups, rfl⟩ := clients_eq_ok_iff.mp h
  clear h
  induction hgroups with
  | nil => rfl
  | @cons name group names groups hgroup _ ih =>
    obtain ⟨file, hf, hgroup⟩ := clientsOf_eq_ok_iff.mp hgroup
    have hservices : group.map (·.service) = file.services.map id :=
      Except.map_eq_of_forall₂ (hgroup.imp fun _ _ hr => hr.service_eq)
    have hrequested : requested files (name :: names) = file.services ++ requested files names := by
      rw [requested, List.flatMap_cons, hf]
      rfl
    rw [List.flatten_cons, List.map_append, hservices, List.map_id, ih, hrequested]

theorem map_name_outputFiles {declared : List String} :
    (outputFiles options declared clients).map (·.name) = clients.map (·.fileName options) := by
  induction clients generalizing declared with
  | nil => rfl
  | cons client clients ih =>
    rw [outputFiles, List.map_cons, ih]
    rfl

/-- No client's file is named as the one that clients share. -/
theorem fileName_ne_doc (client : Client) :
    client.fileName options ≠ (Doc.outputFile options).name := by
  intro h
  have hname := congrArg String.length (options.outputFile_injective h)
  rw [String.length_append] at hname
  have hclient : "_client.go".length = 10 := by decide
  have hdoc : "doc.go".length = 6 := by decide
  omega

/-- The files of a run have different names just when the services do in snake case, whatever their
packages and files are. -/
theorem nodup_names_iff (h : (generateWith files names options).error = none) :
    ((generateWith files names options).files.map (·.name)).Nodup ↔
      ((requested files names).map fun service => Text.snakeCase service.name).Nodup := by
  obtain ⟨clients, hrun⟩ := error_generateWith_eq_none_iff.mp h
  have hinjective : Function.Injective fun word => options.outputFile (word ++ "_client.go") := by
    intro a b hab
    exact String.append_left_inj _ |>.mp (options.outputFile_injective hab)
  have hnames : clients.map (·.fileName options) =
      ((requested files names).map fun service => Text.snakeCase service.name).map
        fun word => options.outputFile (word ++ "_client.go") := by
    rw [← map_service_clients hrun, List.map_map, List.map_map]
    rfl
  have hclients : (clients.map (·.fileName options)).Nodup ↔
      ((requested files names).map fun service => Text.snakeCase service.name).Nodup := by
    rw [hnames, List.nodup_map_iff hinjective]
  rw [generateWith, hrun, ← hclients]
  change ((packageFiles options clients).map (·.name)).Nodup ↔ _
  unfold packageFiles
  split
  · rename_i hempty
    rw [List.isEmpty_iff.mp hempty]
    rfl
  · -- the file that clients share has a name of its own, so only those of the clients count
    have hdoc : (Doc.outputFile options).name ∉ clients.map (·.fileName options) := by
      intro hm
      obtain ⟨client, _, hc⟩ := List.mem_map.mp hm
      exact fileName_ne_doc client hc
    rw [List.map_append, map_name_outputFiles, List.map_singleton, List.nodup_append]
    refine ⟨fun hnodup => hnodup.1, fun hnodup => ⟨hnodup, List.nodup_singleton _, ?_⟩⟩
    intro name hm other ho he
    rw [List.mem_singleton] at ho
    exact hdoc (ho ▸ he ▸ hm)

def depotFiles (name : String) : List File := [
  { name := "depot.proto"
    package := "depot"
    goPackage := some "example.com/depot;depotpb"
    messages := [{ name := "Item" }]
    services := [service "StockAPI", service name] }]
where
  service (name : String) : Service :=
    { name
      defaultHost := some "depot.example.com"
      methods := [{ name := "Put", inputType := ".depot.Item", outputType := ".depot.Item" }] }

def depotOptions : Options := { pkgPath := "example.com/depot/apiv1", pkgName := "depot" }

theorem nodup_names_depot :
    (generateWith (depotFiles "Orders") ["depot.proto"] depotOptions).error = none ∧
      ((generateWith (depotFiles "Orders") ["depot.proto"] depotOptions).files.map
      (·.name)).Nodup := by
  have hok : (generateWith (depotFiles "Orders") ["depot.proto"] depotOptions).error = none := by
    decide +kernel
  refine ⟨hok, (nodup_names_iff hok).mpr ?_⟩
  decide +kernel

/-- Services with different names can get files of the same name. -/
theorem names_not_nodup :
    (generateWith (depotFiles "StockApi") ["depot.proto"] depotOptions).error = none ∧
      ((depotFiles "StockApi").flatMap fun file => file.services.map (·.fullName file)).Nodup ∧
      (generateWith (depotFiles "StockApi") ["depot.proto"] depotOptions).files.map (·.name) = [
        "example.com/depot/apiv1/stock_api_client.go", "example.com/depot/apiv1/stock_api_client.go",
        "example.com/depot/apiv1/doc.go"] := by
  refine ⟨?_, ?_, ?_⟩
  all_goals decide +kernel

end Run

end ClientGen
