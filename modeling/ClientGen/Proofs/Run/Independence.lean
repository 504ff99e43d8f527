import ClientGen.Proofs.Catalog.Extension
import ClientGen.Proofs.Client.ImportNames

namespace ClientGen.Run

open Schema

variable {c d : Catalog} {options : Options} {files others : List File} {names : List String}
  {clients : List Client}

theorem clients_of_extends (h : c.Extends d)
    (hservices : ∀ name file, c.file? name = some file → ∀ entry ∈ file.declarations,
      (c.elements.get? entry.1).isSome)
    (hrun : Run.clients c options names = .ok clients) :
    Run.clients d options names = .ok clients := by
  obtain ⟨groups, hgroups, rfl⟩ := clients_eq_ok_iff.mp hrun
  refine clients_eq_ok_iff.mpr ⟨groups, hgroups.imp ?_, rfl⟩
  intro name group hgroup
  obtain ⟨file, hf, hgroup⟩ := clientsOf_eq_ok_iff.mp hgroup
  refine clientsOf_eq_ok_iff.mpr ⟨file, h.files _ _ hf, ?_⟩
  have hboth := (List.forall₂_and_left _ _).mpr
    ⟨fun service (hs : service ∈ file.services) => hs, hgroup⟩
  refine hboth.imp ?_
  rintro service client ⟨hs, hclient⟩
  refine h.resolved ?_ ?_ hclient
  · exact hservices name file hf _ (File.service_mem_declarations hs)
  · exact fun method hm => hservices name file hf _ (File.method_mem_declarations hs hm)

theorem generateWith_of_extends (h : (Catalog.ofFiles files).Extends (.ofFiles others))
    (hok : (generateWith files names options).error = none) :
    generateWith others names options = generateWith files names options := by
  obtain ⟨clients, hrun⟩ := error_generateWith_eq_none_iff.mp hok
  have hdeclared : ∀ name file, (Catalog.ofFiles files).file? name = some file →
      ∀ entry ∈ file.declarations, ((Catalog.ofFiles files).elements.get? entry.1).isSome := by
    intro name file hf entry he
    exact Catalog.isSome_get?_elements_iff.mpr ⟨file, (Catalog.mem_of_file? hf).1, entry.2, he⟩
  rw [generateWith, generateWith, clients_of_extends h hdeclared hrun, hrun]

/-- A run that succeeds has the same output when unrelated files are added and when the files are
put in another order. -/
theorem generateWith_perm_append {used unrelated : List File} (files : List File)
    (hperm : files.Perm (used ++ unrelated))
    (hnames : ((used ++ unrelated).map (·.name)).Nodup)
    (helements : ((used ++ unrelated).flatMap (·.declarations.map Prod.fst)).Nodup)
    (hok : (generateWith used names options).error = none) :
    generateWith files names options = generateWith used names options := by
  have hused : (used.flatMap (·.declarations.map Prod.fst)).Nodup := by
    rw [List.flatMap_append] at helements
    exact helements.of_append_left
  have hsub : used ⊆ files := fun file hf => hperm.mem_iff.mpr (List.mem_append_left _ hf)
  refine generateWith_of_extends (Catalog.extends_ofFiles ?_ ?_ hused hsub) hok
  · exact (hperm.map _).nodup_iff.mpr hnames
  · exact (hperm.flatMap_right _).nodup_iff.mpr helements

def ledgerFile : File where
  name := "ledger.proto"
  package := "ledger"
  messages := [{ name := "Order", fields := [{ name := "amount", number := 1, kind := .int64 }] }]
  services := [{ name := "Ledger" }]
  locations := [{ path := [6, 0], leadingComments := some "Keeps accounts." }]

theorem generateWith_perm_append_ledger :
    (ledgerFile :: (Client.shopFiles "example.com/order;orders").reverse).Perm
        (Client.shopFiles "example.com/order;orders" ++ [ledgerFile]) ∧
      generateWith (ledgerFile :: (Client.shopFiles "example.com/order;orders").reverse)
        ["shop.proto"]
          Client.shopOptions =
        generateWith (Client.shopFiles "example.com/order;orders") ["shop.proto"]
          Client.shopOptions := by
  have hperm : (ledgerFile :: (Client.shopFiles "example.com/order;orders").reverse).Perm
      (Client.shopFiles "example.com/order;orders" ++ [ledgerFile]) := by
    rw [← List.reverse_concat]
    exact List.reverse_perm _
  refine ⟨hperm, generateWith_perm_append _ hperm ?_ ?_ ?_⟩
  · decide
  · decide +kernel
  · decide +kernel

end ClientGen.Run
