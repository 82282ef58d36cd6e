import Availability.Proofs.Base64
import Availability.Proofs.Http
import Availability.Proofs.Json.Structure
import Availability.Proofs.Publish.Refusal
import Availability.Proofs.Text

namespace Availability.Http

open World (environment)

def Counts (text : String) (count : UInt64) : Prop :=
  ∃ before digits after, text = String.ofList (before ++ digits ++ after) ∧
    before.all Text.isBlank = true ∧ after.all Text.isBlank = true ∧ digits ≠ [] ∧ digits.all Char.isDigit = true ∧
    Nat.ofDigitChars 10 digits 0 = count.toNat

theorem Counts.readWord {text : String} {count : UInt64} (counts : Counts text count) :
    Decimal.readWord (Text.trim text) = .ok count := by
  obtain ⟨before, digits, after, rfl, leading, trailing, filled, decimal, value⟩ := counts
  rw [List.all_eq_true] at leading trailing decimal
  have solid : ∀ c ∈ digits, Text.isBlank c = false := by
    intro c member
    have digit : 48 ≤ c.toNat ∧ c.toNat ≤ 57 := Char.isDigit_iff_toNat.mp (decimal c member)
    simp only [Text.isBlank, Bool.or_eq_false_iff, Bool.and_eq_false_iff, decide_eq_false_iff_not]
    omega
  rw [Text.trim_padded leading solid trailing filled, Decimal.readWord_of_digits decimal filled value]

namespace Form

def controls : List String := ["file_name", "protocol", "data_shard_count", "parity_shard_count"]

def partsOf (fileName : String) (upload : Upload) (dataShards parityShards : String) : List Part := [
  ⟨some "file_name", Bytes.ofText fileName⟩,
  ⟨some "protocol", Bytes.ofText upload.protocol⟩,
  ⟨some "data_shard_count", Bytes.ofText dataShards⟩,
  ⟨some "parity_shard_count", Bytes.ofText parityShards⟩,
  ⟨some fileName, upload.file⟩]

section

variable {parts : List Part} {upload : Upload} {fileName dataShards parityShards name : String} {content : Bytes}

theorem part?_of_perm {others : List Part} (same : parts.Perm others)
    (once : others.filter (·.name == some name) = [⟨some name, content⟩]) : part? parts name = some content := by
  have alone : parts.filter (·.name == some name) = [⟨some name, content⟩] :=
    List.perm_singleton.mp (once ▸ same.filter _)
  rw [part?, ← List.head?_filter, List.filter_reverse, alone]
  rfl

theorem text_of_part? {text : String} (found : part? parts name = some (Bytes.ofText text)) :
    Form.text parts name = .ok text := by
  simp only [Form.text, found, Utf8.decode?_ofText]

theorem count_of_part? {text : String} {word : UInt64} (found : part? parts name = some (Bytes.ofText text))
    (counts : Counts text word) : count parts name = .ok word := by
  simp only [count, text_of_part? found, bind, Except.bind, counts.readWord, Except.mapError]

theorem upload_of_parts (named : Form.text parts "file_name" = .ok fileName)
    (found : part? parts fileName = some upload.file) (data : count parts "data_shard_count" = .ok upload.dataShardCount)
    (parity : count parts "parity_shard_count" = .ok upload.parityShardCount)
    (protocol : Form.text parts "protocol" = .ok upload.protocol) : Form.upload parts = .ok upload := by
  simp only [Form.upload, named, found, data, parity, protocol, bind, Except.bind]
  rfl

theorem upload_of_perm (free : fileName ∉ controls) (dataCount : Counts dataShards upload.dataShardCount)
    (parityCount : Counts parityShards upload.parityShardCount)
    (same : parts.Perm (partsOf fileName upload dataShards parityShards)) : Form.upload parts = .ok upload := by
  -- No two parts have one name, so none is overwritten by another, whichever comes last.
  simp only [controls, List.mem_cons, List.not_mem_nil, or_false, not_or] at free
  obtain ⟨first, second, third, fourth⟩ := free
  have fileNamePart : part? parts "file_name" = some (Bytes.ofText fileName) :=
    part?_of_perm same (by simp [partsOf, first])
  have protocolPart : part? parts "protocol" = some (Bytes.ofText upload.protocol) :=
    part?_of_perm same (by simp [partsOf, second])
  have dataPart : part? parts "data_shard_count" = some (Bytes.ofText dataShards) :=
    part?_of_perm same (by simp [partsOf, third])
  have parityPart : part? parts "parity_shard_count" = some (Bytes.ofText parityShards) :=
    part?_of_perm same (by simp [partsOf, fourth])
  have filePart : part? parts fileName = some upload.file :=
    part?_of_perm same (by simp [partsOf, Ne.symm first, Ne.symm second, Ne.symm third, Ne.symm fourth])
  exact upload_of_parts (text_of_part? fileNamePart) filePart (count_of_part? dataPart dataCount)
    (count_of_part? parityPart parityCount) (text_of_part? protocolPart)

end

def Upload.members (upload : Upload) : List (String × Json) := [
  ("blob", .text (Base64.encode upload.file)),
  ("data_shard_count", .ofWord upload.dataShardCount),
  ("parity_shard_count", .ofWord upload.parityShardCount),
  ("protocol", .text upload.protocol)]

variable {upload : Upload} {members : List (String × Json)}

theorem Upload.nodup_names (upload : Upload) : (upload.members.map (·.1)).Nodup := by
  change ["blob", "data_shard_count", "parity_shard_count", "protocol"].Nodup
  decide

theorem Upload.readable {depth : Nat} (same : members.Perm upload.members) :
    Json.Readable (depth + 1) (.object members) := by
  have each : ∀ member ∈ upload.members, Json.Readable depth member.2 := by
    simp only [Upload.members, List.forall_mem_cons]
    exact ⟨.text _, .ofWord _, .ofWord _, .text _, List.forall_mem_nil _⟩
  exact .object fun member inside => each member (same.mem_iff.mp inside)

end Form

def publicationFields : List (String × Json.Shape) :=
  [("blob", .text), ("data_shard_count", .word), ("parity_shard_count", .word), ("protocol", .text)]

theorem fits_publicationFields {upload : Form.Upload} {members : List (String × Json)}
    (same : members.Perm upload.members) : Json.Shape.Fits publicationFields members := by
  have word (count : UInt64) : Json.Shape.word.read (.ofJson (.ofWord count)) = .ok (.ofWord count) := by
    have small : (Json.ofWord count).toWord? = some count.toNat :=
      (Json.exact_index _ _).mpr ⟨rfl, count.toNat_lt⟩
    have known : (Json.ofWord count).toWord?.isSome = true := by rw [small, Option.isSome_some]
    have whole : Json.Fragment.ofJson (.ofWord count) = .whole (.ofWord count) := rfl
    rw [whole, Json.Shape.read, if_pos known]
  have each : Json.Shape.Fits publicationFields upload.members := by
    simp only [Json.Shape.Fits, Form.Upload.members, List.forall_mem_cons]
    exact ⟨⟨.text, rfl, rfl⟩, ⟨.word, rfl, word _⟩, ⟨.word, rfl, word _⟩, ⟨.text, rfl, rfl⟩, List.forall_mem_nil _⟩
  exact fun member inside => each member (same.mem_iff.mp inside)

theorem read_of_mem {α : Type} {write : α → Json} {value? : Json → Option α} {valid : α → Prop}
    (exact : Json.Exact write value? valid) {members : List (String × Json)} (distinct : (members.map (·.1)).Nodup)
    {name : String} {a : α} (member : (name, write a) ∈ members) (sound : valid a) :
    Input.read value? (.object members) name = .ok a := by
  rw [Input.read, Json.member?_of_nodup distinct member, Option.bind_some, (exact _ _).mpr ⟨rfl, sound⟩]

theorem publication_of_perm {request : Request} {upload : Form.Upload} {members : List (String × Json)}
    (typed : (request.header? "content-type").any Input.isJsonType = true)
    (content : request.content = Bytes.ofText (Json.render (.object members))) (same : members.Perm upload.members)
    (within : request.content.length ≤ Input.bodyLimit) :
    Input.publication request =
      .ok ⟨Base64.encode upload.file, upload.dataShardCount, upload.parityShardCount, upload.protocol⟩ := by
  have distinct : (members.map (·.1)).Nodup := (same.map _).nodup_iff.mpr upload.nodup_names
  have inside {entry : String × Json} (listed : entry ∈ upload.members) : entry ∈ members := same.mem_iff.mpr listed
  have body : Input.body request = .ok (Json.written (.object members)) := by
    rw [Input.body, if_neg (Nat.not_lt.mpr within), content]
    rfl
  have full : ∀ field ∈ publicationFields, field.1 ∈ members.map (·.1) := by
    intro field listed
    rw [(same.map _).mem_iff]
    revert field
    simp [publicationFields, Form.Upload.members]
  have readable : Json.Readable Json.depthLimit (.object members) := Form.Upload.readable same
  have value : Input.structured request publicationFields = .ok (.object members) := by
    simp only [Input.structured, typed, body, Json.Fragment.ofBytes_written readable,
      Json.Shape.readStructure_of_fits (fits_publicationFields same) distinct full, bind, Except.bind]
    rfl
  have blob : Input.read Json.toText? (.object members) "blob" = .ok (Base64.encode upload.file) :=
    read_of_mem Json.exact_text distinct (inside (by simp [Form.Upload.members])) trivial
  have data : Input.read Json.word? (.object members) "data_shard_count" = .ok upload.dataShardCount :=
    read_of_mem Json.exact_word distinct (inside (by simp [Form.Upload.members])) trivial
  have parity : Input.read Json.word? (.object members) "parity_shard_count" = .ok upload.parityShardCount :=
    read_of_mem Json.exact_word distinct (inside (by simp [Form.Upload.members])) trivial
  have protocol : Input.read Json.toText? (.object members) "protocol" = .ok upload.protocol :=
    read_of_mem Json.exact_text distinct (inside (by simp [Form.Upload.members])) trivial
  rw [publicationFields] at value
  simp only [Input.publication, value, blob, data, parity, protocol, bind, Except.bind]
  rfl

section

variable {σ : Type} (env : Environment σ) (router : Router) (node : Node) (state : σ)

theorem answer_posted {request : Request} {route : Route} (posts : request.method = "POST")
    (found : Route.ofPath? request.path = some route) (accepted : route.isPost = true) :
    (router.answer node request).runIn env state =
        ({ ((route.handle node request).runIn env state).1 with allowOrigin := some router.allowOrigin },
          ((route.handle node request).runIn env state).2) ∧
      (router.answer node request).transcript env state = (route.handle node request).transcript env state := by
  have accepts : route.accepts request.method = true := by
    rw [Route.accepts, if_pos accepted, posts]
    rfl
  exact answer_handled env router node found accepts (by rw [posts]; decide) (by rw [posts]; decide) state

/-- A file is published alike whether it is sent in a form or in a document, unless the part that holds it has the name
of one of the parts that say how. -/
theorem upload_publishes_like_document (upload : Form.Upload) {fileName dataShards parityShards : String}
    (free : fileName ∉ Form.controls) (dataCount : Counts dataShards upload.dataShardCount)
    (parityCount : Counts parityShards upload.parityShardCount) {form document : Request} {parts : List Part}
    {members : List (String × Json)} (uploads : form.method = "POST" ∧ form.path = "/api/publish_file")
    (carried : Input.parts form = .ok parts)
    (anyOrder : parts.Perm (Form.partsOf fileName upload dataShards parityShards))
    (posts : document.method = "POST" ∧ document.path = "/api/publish")
    (typed : (document.header? "content-type").any Input.isJsonType = true)
    (content : document.content = Bytes.ofText (Json.render (.object members)))
    (ordered : members.Perm upload.members) (within : document.content.length ≤ Input.bodyLimit) :
    let published := Handler.publishBlob node upload.file upload.dataShardCount upload.parityShardCount upload.protocol
    let answered := ({ (published.runIn env state).1 with allowOrigin := some router.allowOrigin },
      (published.runIn env state).2)
    (router.answer node form).runIn env state = answered ∧
      (router.answer node document).runIn env state = answered ∧
      (router.answer node form).transcript env state = published.transcript env state ∧
      (router.answer node document).transcript env state = published.transcript env state := by
  intro published answered
  have formed : Handler.publishFile node form = published := by
    have read : Input.upload form = .ok upload := by
      simp only [Input.upload, carried, Form.upload_of_perm free dataCount parityCount anyOrder, bind, Except.bind,
        Except.mapError]
    rw [Handler.publishFile, read]
    rfl
  have documented : Handler.publish node document = published := by
    rw [Handler.publish, publication_of_perm typed content ordered within]
    simp only [withInput, decodeBase64, Base64.decode_encode, Except.mapError]
    rfl
  obtain ⟨first, firstHeard⟩ := answer_posted env router node state uploads.1
    (show Route.ofPath? form.path = some .publishFile by rw [uploads.2]; rfl) rfl
  obtain ⟨second, secondHeard⟩ := answer_posted env router node state posts.1
    (show Route.ofPath? document.path = some .publish by rw [posts.2]; rfl) rfl
  have formHandled : Route.publishFile.handle node form = published := formed
  have documentHandled : Route.publish.handle node document = published := documented
  rw [formHandled] at first firstHeard
  rw [documentHandled] at second secondHeard
  exact ⟨first, second, firstHeard, secondHeard⟩

end

def Form.request (parts : List Part) : Request where
  method := "POST"
  target := "/api/publish_file"
  body := .form parts

def Form.Upload.request (members : List (String × Json)) : Request where
  method := "POST"
  target := "/api/publish"
  headers := [("content-type", "application/json")]
  body := .bytes (Bytes.ofText (Json.render (.object members)))

theorem Form.path_request (parts : List Part) : (request parts).path = "/api/publish_file" := by
  have target : (request parts).target = "/api/publish_file" := rfl
  simp only [Request.path, Request.visibleTarget, target]
  decide +kernel

theorem Form.Upload.path_request (members : List (String × Json)) : (request members).path = "/api/publish" := by
  have target : (request members).target = "/api/publish" := rfl
  simp only [Request.path, Request.visibleTarget, target]
  decide +kernel

theorem Form.Upload.content_request (upload : Upload) :
    (request upload.members).content = 0x7b :: (Json.joined true [
      Json.quoted "blob" ++ 0x3a :: Json.quoted (Base64.encode upload.file),
      Json.quoted "data_shard_count" ++ 0x3a :: Json.Number.numeral upload.dataShardCount.toNat,
      Json.quoted "parity_shard_count" ++ 0x3a :: Json.Number.numeral upload.parityShardCount.toNat,
      Json.quoted "protocol" ++ 0x3a :: Json.quoted upload.protocol] ++ [0x7d]) := by
  have word (count : UInt64) : Json.written (.ofWord count) = Json.Number.numeral count.toNat :=
    (Json.written_int _).trans (Json.Number.ofText_toString count.toNat)
  change Json.written (.object upload.members) = _
  rw [Json.written_object]
  simp only [members, List.map_cons, List.map_nil, Json.writtenMember, Json.written_text, word]

theorem upload_publishes_like_document_for_report :
    let upload : Form.Upload := ⟨[0, 255], 2, 1, "ipfs"⟩
    let form := Form.request (Form.partsOf "report.bin" upload " 02" "1\n").reverse
    let document := Form.Upload.request upload.members
    "report.bin" ∉ Form.controls ∧ Counts " 02" 2 ∧ Counts "1\n" 1 ∧
      ∀ (router : Router) (node : Node),
        (router.answer node form).runIn (environment World.inOrder) World.blank =
          (router.answer node document).runIn (environment World.inOrder) World.blank := by
  intro upload form document
  have free : "report.bin" ∉ Form.controls := by decide
  have dataCount : Counts " 02" 2 :=
    ⟨[' '], ['0', '2'], [], by decide +kernel, by decide, by decide, by decide, by decide, by decide⟩
  have parityCount : Counts "1\n" 1 :=
    ⟨[], ['1'], ['\n'], by decide +kernel, by decide, by decide, by decide, by decide, by decide⟩
  have carried : Input.parts form = .ok (Form.partsOf "report.bin" upload " 02" "1\n").reverse :=
    if_neg (by decide +kernel)
  have within : document.content.length ≤ Input.bodyLimit := by
    rw [Form.Upload.content_request]
    decide +kernel
  refine ⟨free, dataCount, parityCount, fun router node => ?_⟩
  obtain ⟨first, second, -⟩ := upload_publishes_like_document (environment World.inOrder) router node World.blank upload
    free dataCount parityCount ⟨rfl, Form.path_request _⟩ carried (List.reverse_perm _)
    ⟨rfl, Form.Upload.path_request _⟩ (typed_of_headers rfl) rfl (List.Perm.refl _) within
  rw [first, second]

/-- A file in the part that is named as the one for the network is taken for the name of the network. -/
theorem not_every_upload_published :
    let upload : Form.Upload := ⟨Bytes.ofText "a file of that name", 2, 1, "ipfs"⟩
    let form := Form.request (Form.partsOf "protocol" upload "2" "1")
    let document := Form.Upload.request upload.members
    let node : Node := { publisher := { store := { registry := [.ipfs] }, sender := "alice" } }
    let router : Router := ⟨"*"⟩
    ((router.answer node form).runIn (environment World.inOrder) World.blank).1.status = 400 ∧
      ((router.answer node document).runIn (environment World.inOrder) World.blank).1.status = 200 := by
  intro upload form document node router
  constructor
  · have carried : Input.parts form = .ok (Form.partsOf "protocol" upload "2" "1") := if_neg (by decide +kernel)
    have part : Form.part? (Form.partsOf "protocol" upload "2" "1") "protocol" = some upload.file := by decide +kernel
    have two : Counts "2" 2 :=
      ⟨[], ['2'], [], by decide +kernel, by decide, by decide, by decide, by decide, by decide⟩
    have one : Counts "1" 1 :=
      ⟨[], ['1'], [], by decide +kernel, by decide, by decide, by decide, by decide, by decide⟩
    have read : Form.upload (Form.partsOf "protocol" upload "2" "1") =
        .ok ⟨upload.file, 2, 1, "a file of that name"⟩ :=
      Form.upload_of_parts (Form.text_of_part? (by decide +kernel)) part (Form.count_of_part? (by decide +kernel) two)
        (Form.count_of_part? (by decide +kernel) one) (Form.text_of_part? part)
    have taken : Input.upload form = .ok ⟨upload.file, 2, 1, "a file of that name"⟩ := by
      simp only [Input.upload, carried, read, bind, Except.bind, Except.mapError]
    have handled : Route.publishFile.handle node form =
        Handler.publishBlob node upload.file 2 1 "a file of that name" := by
      rw [Route.handle, Handler.publishFile, taken]
      rfl
    have posted : Route.ofPath? form.path = some .publishFile := by
      rw [Form.path_request]
      rfl
    rw [(answer_posted _ router node _ rfl posted rfl).1, handled]
    exact (status_publishBlob World.inOrder World.serves_blank node upload.file 2 1 _).trans (if_neg (by decide +kernel))
  · have within : document.content.length ≤ Input.bodyLimit := by
      rw [Form.Upload.content_request]
      decide +kernel
    have taken := publication_of_perm (typed_of_headers rfl) rfl (List.Perm.refl _) within
    rw [status_publish World.inOrder World.serves_blank router node rfl (Form.Upload.path_request _) taken
      (Base64.decode_encode _)]
    exact if_pos (by decide +kernel)

end Availability.Http
