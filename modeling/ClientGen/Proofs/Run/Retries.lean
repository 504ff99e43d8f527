import ClientGen.Proofs.Proto.Rule

namespace ClientGen.Proto

theorem exists_annotation_of_method {file : FileDecl} {service : ServiceDecl} {method : MethodDecl}
    (hs : service ∈ file.services) (hm : method ∈ service.methods) :
    ∃ path, ⟨qualified (qualified file.package service.name) method.name, path, .methodOptions,
      method.options⟩ ∈ file.annotations := by
  obtain ⟨i, hi, rfl⟩ := List.mem_iff_getElem.mp hs
  obtain ⟨j, hj, rfl⟩ := List.mem_iff_getElem.mp hm
  refine ⟨elementPath (elementPath [] 6 i) 2 j ++ [4], List.mem_cons_of_mem _ ?_⟩
  refine List.mem_append_left _ (List.mem_append_right _ (List.mem_flatten.mpr ?_))
  exact ⟨_, List.mem_mapIdx.mpr ⟨i, hi, rfl⟩,
    List.mem_cons_of_mem _ (List.mem_mapIdx.mpr ⟨j, hj, rfl⟩)⟩

/-- The options of every method can be read. -/
theorem Checked.exists_settled {descriptors : List FileDecl} {linked : Linked}
    (h : Checked descriptors linked) {index : Nat} {file : FileDecl} {service : ServiceDecl}
    {method : MethodDecl} (hf : descriptors[index]? = some file) (hs : service ∈ file.services)
    (hm : method ∈ service.methods) :
    ∃ settled, linked.settle?
      ⟨linked.pool.visible index, qualified (qualified file.package service.name) method.name⟩
      .methodOptions method.options = some settled := by
  obtain ⟨path, ha⟩ := exists_annotation_of_method hs hm
  have hreadable := h.isReadable index file hf
  exact Option.isSome_iff_exists.mp (List.all_eq_true.mp hreadable _ ha)

end ClientGen.Proto

namespace ClientGen.Run

open Schema Proto

/-- Whether a method of a decoded request is retried, and what it is bound to, follows what the
bytes set in its options. -/
theorem retries_follow_options {bytes : Wire.Bytes} {request : Request}
    (h : Request.ofBytes bytes = .ok request) :
    ∃ members descriptors linked, readMembers nestingLimit .request bytes = some members ∧
      (members.blobs 15).mapM FileDecl.read? = some descriptors ∧
      Linked.ofFiles? descriptors = some linked ∧
      ∀ (index : Nat) file, request.files[index]? = some file →
        ∃ decl, descriptors[index]? = some decl ∧
          List.Forall₂
            (fun serviceDecl service => List.Forall₂
              (fun methodDecl method => ∃ settled,
                linked.settle?
                  ⟨linked.pool.visible index,
                    qualified (qualified decl.package serviceDecl.name) methodDecl.name⟩
                  .methodOptions methodDecl.options = some settled ∧
                MethodRead linked methodDecl settled.values method)
              serviceDecl.methods service.methods)
            decl.services file.services := by
  obtain ⟨members, descriptors, linked, hmembers, hd, hlinked, hfiles⟩ := exists_linked_of_ofBytes h
  refine ⟨members, descriptors, linked, hmembers, hd, hlinked, fun index file hf => ?_⟩
  have hchecked := checked_of_ofFiles? hlinked
  obtain ⟨decl, hdecl, hconv⟩ := exists_decl_of_file hlinked hfiles hf
  refine ⟨decl, hdecl, (forall₂_and_mem hconv.services).imp ?_⟩
  rintro serviceDecl service ⟨hs, _, hservice⟩
  refine (forall₂_and_mem (converted_of_serviceToSchema? hservice).methods).imp ?_
  rintro methodDecl method ⟨hm, _, hmethod⟩
  obtain ⟨settled, hsettled⟩ := hchecked.exists_settled hdecl hs hm
  exact ⟨settled, hsettled, hchecked.methodRead hmethod hsettled⟩

open Wire (textField write)

def messageField (number : Nat) (fields : List Wire.Field) : Wire.Field :=
  (number, .bytes (write fields))

def ruledMethod (name : String) (more rule : List Wire.Field) : Wire.Field :=
  messageField 2 ([textField 1 name, textField 2 "M", textField 3 "M",
    messageField 4 [messageField 72295728 rule, (50000, .varint 1)]] ++ more)

/-- A request with three files. The first declares the options of methods, the second the extension
of them by rules, in which `get` is a pattern, and the third a service. Of its methods one has an
empty path, one has a path and streams, and one has a pattern that nothing declares. -/
def ruledRequest : Wire.Bytes :=
  write [
    messageField 15 [textField 1 "o", textField 2 "google.protobuf",
      messageField 4 [textField 1 "MethodOptions",
        messageField 5 [(1, .varint 1000), (2, .varint 536870912)]]],
    messageField 15 [textField 1 "h", textField 2 "google.api", textField 3 "o",
      messageField 4 [textField 1 "HttpRule",
        messageField 2 [textField 1 "get", (3, .varint 2), (4, .varint 1), (5, .varint 9),
          (9, .varint 0)],
        messageField 8 [textField 1 "pattern"]],
      messageField 7 [textField 1 "http", textField 2 ".google.protobuf.MethodOptions",
        (3, .varint 72295728), (4, .varint 1), (5, .varint 11), textField 6 "HttpRule"],
      textField 12 "proto3"],
    messageField 15 [textField 1 "s", textField 2 "p", textField 3 "h",
      messageField 4 [textField 1 "M"],
      messageField 6 [textField 1 "S", ruledMethod "A" [] [textField 2 "", textField 7 "*"],
        ruledMethod "B" [(6, .varint 1)] [textField 2 "/b"], ruledMethod "C" [] [textField 3 "/c"]]]]

theorem retries_follow_options_ruled :
    ∃ request, Request.ofBytes ruledRequest = .ok request ∧
      (request.files.flatMap fun file => file.services.flatMap fun service =>
        service.methods.map fun method =>
          (method.name, RetryPolicy.isRetryable method, method.http.map (·.path))) =
        [("A", true, some ""), ("B", false, some "/b"), ("C", false, none)] ∧
      ∃ members descriptors linked, readMembers nestingLimit .request ruledRequest = some members ∧
        (members.blobs 15).mapM FileDecl.read? = some descriptors ∧
        Linked.ofFiles? descriptors = some linked ∧
        ∀ (index : Nat) file, request.files[index]? = some file →
          ∃ decl, descriptors[index]? = some decl ∧
            List.Forall₂
              (fun serviceDecl service => List.Forall₂
                (fun methodDecl method => ∃ settled,
                  linked.settle?
                    ⟨linked.pool.visible index,
                      qualified (qualified decl.package serviceDecl.name) methodDecl.name⟩
                    .methodOptions methodDecl.options = some settled ∧
                  MethodRead linked methodDecl settled.values method)
                serviceDecl.methods service.methods)
              decl.services file.services := by
  have hrun : ((Request.ofBytes ruledRequest).toOption.map fun request =>
      request.files.flatMap fun file => file.services.flatMap fun service =>
        service.methods.map fun method =>
          (method.name, RetryPolicy.isRetryable method, method.http.map (·.path))) =
      some [("A", true, some ""), ("B", false, some "/b"), ("C", false, none)] := by
    decide +kernel
  obtain ⟨request, hrequest, hmethods⟩ := Option.map_eq_some_iff.mp hrun
  have hok := Except.toOption_eq_some_iff.mp hrequest
  exact ⟨request, hok, hmethods, retries_follow_options hok⟩

end ClientGen.Run
