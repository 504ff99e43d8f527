import ClientGen.Command.Response
import ClientGen.Proofs.Wire.Fields
import Mathlib.Data.List.Basic

namespace ClientGen

open Wire

/-- A file of a response, as its fields tell: the last of each kind counts. -/
structure ResponseFile where
  name : Option String := none
  insertionPoint : Option String := none
  content : Option String := none
  /-- Fields of other numbers. -/
  others : List Field := []

structure Response where
  error : Option String := none
  supportedFeatures : Option Nat := none
  files : List ResponseFile := []
  /-- Fields of other numbers. -/
  others : List Field := []

namespace ResponseFile

/-- Takes in one more field. A field of a known number has the wire type of its kind. -/
def take (file : ResponseFile) : Field → Option ResponseFile
  | (1, .bytes content) => (utf8? content).map fun name => { file with name := some name }
  | (2, .bytes content) =>
    (utf8? content).map fun point => { file with insertionPoint := some point }
  | (15, .bytes content) => (utf8? content).map fun text => { file with content := some text }
  | (1, _) | (2, _) | (15, _) => none
  | field => some { file with others := file.others ++ [field] }

def read? (bytes : Bytes) : Option ResponseFile := do
  (← Wire.read? bytes).foldlM take {}

end ResponseFile

namespace Response

def take (response : Response) : Field → Option Response
  | (1, .bytes content) => (utf8? content).map fun error => { response with error := some error }
  | (2, .varint features) => some { response with supportedFeatures := some features }
  | (15, .bytes content) =>
    (ResponseFile.read? content).map fun file => { response with files := response.files ++ [file] }
  | (1, _) | (2, _) | (15, _) => none
  | field => some { response with others := response.others ++ [field] }

def read? (bytes : Bytes) : Option Response := do
  (← Wire.read? bytes).foldlM take {}

end Response

def OutputFile.toResponse (file : OutputFile) : ResponseFile where
  name := some file.name
  content := some file.content

def Output.toResponse (output : Output) : Response where
  error := output.error
  supportedFeatures := some 1
  files := output.files.map OutputFile.toResponse

theorem textField_fits {number : Nat} {text : String} {fields : List Field}
    (hm : textField number text ∈ fields) (h : (write fields).length < UInt64.size) :
    (textField number text).2.Fits :=
  Nat.lt_of_le_of_lt (length_le_of_mem hm) h

namespace OutputFile

def block (file : OutputFile) : Bytes :=
  write [textField 1 file.name, textField 15 file.content]

theorem read?_block (file : OutputFile) (h : file.block.length < UInt64.size) :
    ResponseFile.read? file.block = some file.toResponse := by
  have hfits : FieldsFit [textField 1 file.name, textField 15 file.content] :=
    ⟨by decide, textField_fits List.mem_cons_self h, by decide,
      textField_fits (List.mem_cons_of_mem _ List.mem_cons_self) h, trivial⟩
  rw [ResponseFile.read?, block, Wire.read?_write hfits]
  simp only [textField, Option.bind_eq_bind, Option.bind_some, List.foldlM_cons, List.foldlM_nil,
    ResponseFile.take, utf8?_toUTF8, Option.map_some]
  rfl

theorem block_injective : Function.Injective block := by
  intro a b h
  have hblock (file : OutputFile) :
    file.block = writeKey 1 2 ++ (writeBlock file.name.toUTF8.toList ++
      (writeKey 15 2 ++ (writeBlock file.content.toUTF8.toList ++ []))) := by
    simp [block, write, textField, writeField, writeBlock]
  rw [hblock, hblock] at h
  obtain ⟨hname, hrest⟩ := writeBlock_append_inj (List.append_cancel_left h)
  obtain ⟨hcontent, _⟩ := writeBlock_append_inj (List.append_cancel_left hrest)
  cases a
  cases b
  cases toUTF8_toList_inj hname
  cases toUTF8_toList_inj hcontent
  rfl

end OutputFile

namespace Output

theorem foldlM_take (response : Response) (files : List OutputFile)
    (h : ∀ file ∈ files, file.block.length < UInt64.size) :
    (files.map OutputFile.toField).foldlM Response.take response =
      some { response with files := response.files ++ files.map OutputFile.toResponse } := by
  induction files generalizing response with
  | nil => simp
  | cons file files ih =>
    have htake : response.take file.toField =
        some { response with files := response.files ++ [file.toResponse] } := by
      change (ResponseFile.read? file.block).map _ = _
      rw [file.read?_block (h file List.mem_cons_self)]
      rfl
    rw [List.map_cons, List.foldlM_cons, htake, Option.bind_eq_bind, Option.bind_some,
      ih _ fun other ho => h other (List.mem_cons_of_mem _ ho)]
    simp

theorem fieldsFit_toFields {output : Output} (h : output.toBytes.length < UInt64.size) :
    FieldsFit output.toFields := by
  refine fieldsFit_iff.mpr fun field hf => ?_
  have hm := hf
  simp only [toFields, List.mem_append, Option.mem_toList, Option.map_eq_some_iff, List.mem_singleton,
    List.mem_map] at hm
  obtain (⟨error, _, rfl⟩ | rfl) | ⟨file, _, rfl⟩ := hm
  · exact ⟨(by decide : 0 < 1 ∧ 1 < 536870912), textField_fits hf h⟩
  · exact ⟨by decide, (by decide : 1 < UInt64.size)⟩
  · exact ⟨(by decide : 0 < 15 ∧ 15 < 536870912), Nat.lt_of_le_of_lt (length_le_of_mem hf) h⟩

theorem foldlM_head (output : Output) :
    ((output.error.map (textField 1)).toList ++ [(2, Payload.varint 1)]).foldlM Response.take {} =
      some { error := output.error, supportedFeatures := some 1 } := by
  cases output.error with
  | none => rfl
  | some error =>
    rw [Option.map_some, Option.toList_some, List.singleton_append, List.foldlM_cons, textField,
      Response.take, utf8?_toUTF8]
    rfl

/-- The bytes of a response that fit 64-bit sizes are read back. -/
theorem read?_toBytes {output : Output} (h : output.toBytes.length < UInt64.size) :
    Response.read? output.toBytes = some output.toResponse := by
  have hfiles : ∀ file ∈ output.files, file.block.length < UInt64.size := by
    intro file hf
    have hmem : (15, Payload.bytes file.block) ∈ output.toFields :=
      List.mem_append_right _ (List.mem_map_of_mem hf)
    exact Nat.lt_of_le_of_lt (length_le_of_mem hmem) h
  rw [Response.read?, toBytes, Wire.read?_write (fieldsFit_toFields h), Option.bind_eq_bind,
    Option.bind_some, toFields, List.foldlM_append, foldlM_head, Option.bind_eq_bind,
    Option.bind_some, foldlM_take _ _ hfiles]
  rfl

theorem files_eq_of_write_eq {a b : List OutputFile}
    (h : write (a.map OutputFile.toField) = write (b.map OutputFile.toField)) : a = b := by
  have hcons (file : OutputFile) (files : List OutputFile) :
      write ((file :: files).map OutputFile.toField) =
        writeKey 15 2 ++ (writeBlock file.block ++ write (files.map OutputFile.toField)) := by
    simp [OutputFile.toField, OutputFile.block, write, writeField, writeBlock]
  have hne (file : OutputFile) (files : List OutputFile) :
      write ((file :: files).map OutputFile.toField) ≠ [] := by
    rw [hcons, writeKey]
    exact List.append_ne_nil_of_left_ne_nil (List.ne_nil_of_length_pos (length_writeVarint_pos _)) _
  induction a generalizing b with
  | nil =>
    cases b with
    | nil => rfl
    | cons file files => exact absurd h.symm (hne file files)
  | cons file files ih =>
    cases b with
    | nil => exact absurd h (hne file files)
    | cons other others =>
      rw [hcons, hcons] at h
      obtain ⟨hblock, hfiles⟩ := writeBlock_append_inj (List.append_cancel_left h)
      rw [OutputFile.block_injective hblock, ih hfiles]

/-- Different outcomes have different responses, however large they are. -/
theorem toBytes_injective : Function.Injective toBytes := by
  intro a b h
  have hnone (files : List OutputFile) : toBytes ⟨files, none⟩ =
      16 :: 1 :: write (files.map OutputFile.toField) := by
    simp [toBytes, toFields, write, writeField, writeKey, writeVarint_of_lt]
  have hsome (files : List OutputFile) (error : String) : toBytes ⟨files, some error⟩ =
      10 :: (writeBlock error.toUTF8.toList ++ 16 :: 1 :: write (files.map OutputFile.toField)) := by
    simp [toBytes, toFields, write, writeField, writeKey, writeVarint_of_lt, textField, writeBlock]
  obtain ⟨files, error⟩ := a
  obtain ⟨others, other⟩ := b
  cases error with
  | none =>
    cases other with
    | none =>
      rw [hnone, hnone] at h
      rw [files_eq_of_write_eq (List.cons.inj (List.cons.inj h).2).2]
    | some other =>
      rw [hnone, hsome] at h
      exact absurd (List.cons.inj h).1 (by decide)
  | some error =>
    cases other with
    | none =>
      rw [hnone, hsome] at h
      exact absurd (List.cons.inj h).1 (by decide)
    | some other =>
      rw [hsome, hsome] at h
      obtain ⟨herror, hfiles⟩ := writeBlock_append_inj (List.cons.inj h).2
      rw [toUTF8_toList_inj herror, files_eq_of_write_eq (List.cons.inj (List.cons.inj hfiles).2).2]

/-- A reader of the response finds the error, the features and the files, each with its name and its
content, and nothing else. Different outcomes have different responses. -/
theorem toBytes_read_back (output : Output) :
    (output.toBytes.length < UInt64.size →
      Response.read? output.toBytes = some {
        error := output.error
        supportedFeatures := some 1
        files := output.files.map fun file =>
          { name := some file.name, insertionPoint := none, content := some file.content,
            others := [] }
        others := [] }) ∧
      ∀ other : Output, other.toBytes = output.toBytes → other = output :=
  ⟨read?_toBytes, fun _ h => toBytes_injective h⟩

def unusualOutput : Output where
  files := [⟨"", ""⟩, ⟨"é.go", "package é\n"⟩, ⟨"é.go", ""⟩]
  error := some ""

theorem toBytes_read_back_unusual :
    unusualOutput.toBytes.length < UInt64.size ∧
      Response.read? unusualOutput.toBytes = some {
        error := some ""
        supportedFeatures := some 1
        files := [{ name := some "", content := some "" },
          { name := some "é.go", content := some "package é\n" },
          { name := some "é.go", content := some "" }] } := by
  have hlength : unusualOutput.toBytes.length < UInt64.size := by decide +kernel
  exact ⟨hlength, (toBytes_read_back unusualOutput).1 hlength⟩

end Output

end ClientGen
