import PrintJob.Proofs.Lookup
import PrintJob.Proofs.Number.Conversion
import PrintJob.Records.Job
import PrintJob.Records.Settings

/-! # Records with missing fields

A record that is written as an object may lose any of its members, and what remains may be put in
any order. It is still read: a lost field has its default value, and every other field is as it
was. -/

namespace PrintJob

namespace Json

/-! ## What remains of an object -/

/-- What remains of an object when the members with some names are removed, in any order. -/
def Remains (removed : String → Bool) (value part : Json) : Prop :=
  ∃ members rest : List (String × Json), value = .record members ∧ part = .record rest ∧
    rest.Perm (members.filter fun member => !removed member.1)

theorem record_injective : Function.Injective record := by
  intro members others h
  have hmap := Json.object.inj h
  refine List.map_injective_iff.mpr ?_ hmap
  rintro ⟨key, value⟩ ⟨key', value'⟩ he
  simpa using he

theorem readableMembers_record (members : List (String × Json)) :
    readableMembers (members.map fun member => (some member.1, member.2)) = some members := by
  induction members with
  | nil => rfl
  | cons member rest ih => simp [readableMembers, ih]

/-- The fields that what remains of a record gives. -/
structure Given (removed : String → Bool) (members : List (String × Json)) (fields : Fields) :
    Prop where
  nodup : (members.map Prod.fst).Nodup
  lookup_eq : ∀ name, fields.lookup name = if removed name then none else members.lookup name

theorem Remains.exists_given {removed : String → Bool} {members : List (String × Json)}
    {part : Json} (h : Remains removed (.record members) part) (names : List String) (least : Nat)
    (hk : members.map Prod.fst ⊆ names) (hn : (members.map Prod.fst).Nodup) :
    ∃ fields, part.fields? names least = some fields ∧ Given removed members fields := by
  obtain ⟨members', rest, hm, rfl, hp⟩ := h
  obtain rfl := record_injective hm
  have hfiltered : ((members.filter fun member => !removed member.1).map Prod.fst).Nodup :=
    hn.sublist (List.filter_sublist.map _)
  have hnodup : (rest.map Prod.fst).Nodup := (hp.map Prod.fst).nodup_iff.mpr hfiltered
  have hknown : (rest.filter fun member => names.contains member.1) = rest := by
    apply List.filter_eq_self.mpr
    intro member hmem
    have hkept := List.mem_of_mem_filter (hp.mem_iff.mp hmem)
    simpa using hk (List.mem_map_of_mem hkept)
  refine ⟨rest, ?_, ⟨hn, fun name => ?_⟩⟩
  · simp only [record, fields?, readableMembers_record, hknown]
    exact if_pos hnodup
  · rw [lookup_eq_of_perm hp hnodup, lookup_filter]

/-- All members of an object remain when none is removed. -/
theorem remains_record (members : List (String × Json)) :
    Remains (fun _ => false) (.record members) (.record members) :=
  ⟨members, members, rfl, rfl, by simp⟩

section

variable {removed : String → Bool} {members : List (String × Json)} {fields : Fields}
variable {α : Type} {name : String} {decode : Json → Option α}

theorem Given.read_removed (h : Given removed members fields) (hr : removed name = true)
    (absent : Option α) : fields.read name decode absent = absent := by
  rw [Fields.read, h.lookup_eq, hr]
  rfl

theorem Given.read_member (h : Given removed members fields) (hr : removed name = false)
    {value : Json} {kept : α} (hd : decode value = some kept) (hm : (name, value) ∈ members)
    (absent : Option α) : fields.read name decode absent = some kept := by
  rw [Fields.read, h.lookup_eq, hr, lookup_eq_some_of_mem h.nodup hm]
  exact hd

/-- What is left of a field: its default value if it was removed. -/
def left (removed : Bool) (default value : α) : α := if removed then default else value

theorem Given.read_left (h : Given removed members fields) {value : Json} {default kept : α}
    (hd : decode value = some kept) (hm : (name, value) ∈ members) :
    fields.read name decode (some default) = some (left (removed name) default kept) := by
  cases hr : removed name with
  | true => exact h.read_removed hr _
  | false => exact h.read_member hr hd hm _

end

/-- Reading goes on with a value that was read. -/
theorem bind_eq_some {α β : Type} {value : Option α} {next : α → Option β} {a : α} {b : β}
    (hv : value = some a) (hn : next a = some b) : (value >>= next) = some b := by
  rw [hv]
  exact hn

/-! ## Fields that are read back -/

@[simp] theorem toText?_text (value : String) : toText? (.text value) = some value := rfl

@[simp] theorem toBool?_bool (value : Bool) : toBool? (.bool value) = some value := rfl

theorem toNatBelow?_nat {bound n : Nat} (h : n < bound) : toNatBelow? bound (.nat n) = some n := by
  simp [toNatBelow?, nat, h]

@[simp] theorem toUInt8?_nat (n : UInt8) : toUInt8? (.nat n.toNat) = some n := by
  simp [toUInt8?, toNatBelow?_nat n.toNat_lt_size]

@[simp] theorem toUInt32?_nat (n : UInt32) : toUInt32? (.nat n.toNat) = some n := by
  simp [toUInt32?, toNatBelow?_nat n.toNat_lt_size]

@[simp] theorem toUInt32?_ofUInt32 (n : UInt32) : toUInt32? (.ofUInt32 n) = some n :=
  toUInt32?_nat n

@[simp] theorem toUInt64?_nat (n : UInt64) : toUInt64? (.nat n.toNat) = some n := by
  simp [toUInt64?, toNatBelow?_nat n.toNat_lt_size]

@[simp] theorem toWord?_ofWord (word : BitVec 32) : toWord? (.ofWord word) = some word := by
  have hlt : word.toNat < UInt32.size := word.isLt
  simp [toWord?, ofWord, toNatBelow?_nat hlt]

theorem toSingle?_ofSingle {x : Number.Single} (h : x.isInfinite = false) :
    toSingle? (.ofSingle x) = some x := by
  simp only [toSingle?, ofSingle,
    Number.Binary.convert_convert Number.Format.double_widens_single h]

/-- A list is read back if its items are. -/
theorem toList?_ofList {α : Type} {encode : α → Json} {decode : Json → Option α}
    (h : ∀ value, decode (encode value) = some value) (values : List α) :
    toList? decode (.ofList encode values) = some values := by
  have hall : decodeAll decode (values.map encode) = some values := by
    induction values with
    | nil => rfl
    | cons value rest ih => simp [decodeAll, h, ih]
  exact hall

/-- A value that may be missing is read back if nothing else is written as null. -/
theorem toOption?_ofOption {α : Type} {encode : α → Json} {decode : Json → Option α}
    (h : ∀ value, decode (encode value) = some value) (hn : ∀ value, encode value ≠ .null)
    (value : Option α) : toOption? decode (.ofOption encode value) = some value := by
  cases value with
  | none => rfl
  | some value =>
      have hvalue := h value
      have hnull := hn value
      simp only [ofOption]
      unfold toOption?
      split
      · rename_i he
        exact absurd he hnull
      · rw [hvalue]
        rfl

@[simp] theorem toOption?_text (value : Option String) :
    toOption? toText? (.ofOption .text value) = some value :=
  toOption?_ofOption toText?_text (by simp) value

@[simp] theorem toOption?_bytes (bytes : Option (List UInt8)) :
    toOption? toBytes? (.ofOption .ofBytes bytes) = some bytes :=
  toOption?_ofOption (toList?_ofList toUInt8?_nat) (by simp [ofList]) bytes

@[simp] theorem toList?_text (values : List String) :
    toList? toText? (.ofList .text values) = some values :=
  toList?_ofList toText?_text values

@[simp] theorem toList?_ofUInt32 (values : List UInt32) :
    toList? toUInt32? (.ofList .ofUInt32 values) = some values :=
  toList?_ofList toUInt32?_ofUInt32 values

end Json

/-! ## Records without fields of their own defaults -/

@[simp] theorem Duplex.ofJson?_toJson (duplex : Duplex) : ofJson? duplex.toJson = some duplex := by
  cases duplex <;> rfl

namespace Margin

/-- No margin is infinite. -/
structure IsFinite (margin : Margin) : Prop where
  top : margin.top.isInfinite = false
  bottom : margin.bottom.isInfinite = false
  left : margin.left.isInfinite = false
  right : margin.right.isInfinite = false

theorem ofJson?_toJson {margin : Margin} (h : margin.IsFinite) :
    ofJson? margin.toJson = some margin := by
  have hall : Json.Remains (fun _ => false) margin.toJson margin.toJson := Json.remains_record _
  obtain ⟨fields, hf, hg⟩ := hall.exists_given fieldNames 0 (by simp [fieldNames]) (by simp)
  refine Json.bind_eq_some hf ?_
  refine Json.bind_eq_some (hg.read_member rfl (Json.toSingle?_ofSingle h.top) (by simp) _) ?_
  refine Json.bind_eq_some (hg.read_member rfl (Json.toSingle?_ofSingle h.bottom) (by simp) _) ?_
  refine Json.bind_eq_some (hg.read_member rfl (Json.toSingle?_ofSingle h.left) (by simp) _) ?_
  refine Json.bind_eq_some (hg.read_member rfl (Json.toSingle?_ofSingle h.right) (by simp) _) ?_
  rfl

end Margin

/-- Neither the page nor the job has an infinite margin. -/
structure Parameters.HasFiniteMargins (params : Parameters) : Prop where
  page : params.pageMargins.IsFinite
  job : params.jobMargins.IsFinite

/-! ## Records with default values -/

namespace Render.Request

/-- What was asked for, with the removed requests reset. -/
def without (removed : String → Bool) (request : Request) : Request :=
  let default : Request := {}
  { portrait := Json.left (removed "portrait") default.portrait request.portrait
    landscape := Json.left (removed "landscape") default.landscape request.landscape
    autoRotate := Json.left (removed "auto_rotate") default.autoRotate request.autoRotate
    fillPage := Json.left (removed "fill_page") default.fillPage request.fillPage
    fitToPage := Json.left (removed "fit_to_page") default.fitToPage request.fitToPage
    documentScaling :=
      Json.left (removed "document_scaling") default.documentScaling request.documentScaling }

theorem ofJson?_of_remains {removed : String → Bool} {request : Request} {part : Json}
    (h : Json.Remains removed request.toJson part) :
    ofJson? part = some (request.without removed) := by
  obtain ⟨fields, hf, hg⟩ := h.exists_given fieldNames 0 (by simp [fieldNames]) (by simp)
  refine Json.bind_eq_some hf ?_
  refine Json.bind_eq_some (hg.read_left (Json.toBool?_bool request.portrait) (by simp)) ?_
  refine Json.bind_eq_some (hg.read_left (Json.toBool?_bool request.landscape) (by simp)) ?_
  refine Json.bind_eq_some (hg.read_left (Json.toBool?_bool request.autoRotate) (by simp)) ?_
  refine Json.bind_eq_some (hg.read_left (Json.toBool?_bool request.fillPage) (by simp)) ?_
  refine Json.bind_eq_some (hg.read_left (Json.toBool?_bool request.fitToPage) (by simp)) ?_
  refine Json.bind_eq_some (hg.read_left (Json.toBool?_bool request.documentScaling) (by simp)) ?_
  rfl

@[simp] theorem ofJson?_toJson (request : Request) : ofJson? request.toJson = some request :=
  ofJson?_of_remains (Json.remains_record _)

end Render.Request

namespace Application

/-- An application with the removed names reset. -/
def without (removed : String → Bool) (source : Application) : Application :=
  let default : Application := {}
  { name := Json.left (removed "app_name") default.name source.name
    version := Json.left (removed "app_version") default.version source.version
    system := Json.left (removed "os_name") default.system source.system }

theorem ofJson?_of_remains {removed : String → Bool} {source : Application} {part : Json}
    (h : Json.Remains removed source.toJson part) :
    ofJson? part = some (source.without removed) := by
  obtain ⟨fields, hf, hg⟩ := h.exists_given fieldNames 0 (by simp [fieldNames]) (by simp)
  refine Json.bind_eq_some hf ?_
  refine Json.bind_eq_some (hg.read_left (Json.toText?_text source.name) (by simp)) ?_
  refine Json.bind_eq_some (hg.read_left (Json.toText?_text source.version) (by simp)) ?_
  refine Json.bind_eq_some (hg.read_left (Json.toText?_text source.system) (by simp)) ?_
  rfl

@[simp] theorem ofJson?_toJson (source : Application) : ofJson? source.toJson = some source :=
  ofJson?_of_remains (Json.remains_record _)

end Application

namespace Settings

/-- Settings with the removed ones reset. -/
def without (removed : String → Bool) (settings : Settings) : Settings :=
  let default : Settings := {}
  { version := Json.left (removed "version") default.version settings.version
    source := Json.left (removed "source") default.source settings.source
    timeoutMs := Json.left (removed "capability_timeout_ms") default.timeoutMs settings.timeoutMs
    debugDir := Json.left (removed "debug_dir") default.debugDir settings.debugDir }

theorem ofJson?_of_remains {removed : String → Bool} {settings : Settings} {part : Json}
    (h : Json.Remains removed settings.toJson part) :
    ofJson? part = some (settings.without removed) := by
  obtain ⟨fields, hf, hg⟩ := h.exists_given fieldNames 0 (by simp [fieldNames]) (by simp)
  refine Json.bind_eq_some hf ?_
  refine Json.bind_eq_some (hg.read_left (Json.toUInt32?_nat settings.version) (by simp)) ?_
  refine Json.bind_eq_some (hg.read_left (Application.ofJson?_toJson settings.source) (by simp)) ?_
  refine Json.bind_eq_some (hg.read_left (Json.toUInt64?_nat settings.timeoutMs) (by simp)) ?_
  refine Json.bind_eq_some (hg.read_left (Json.toOption?_text settings.debugDir) (by simp)) ?_
  rfl

@[simp] theorem ofJson?_toJson (settings : Settings) : ofJson? settings.toJson = some settings :=
  ofJson?_of_remains (Json.remains_record _)

end Settings

namespace Capabilities

/-- Capabilities with the removed ones reset. -/
def without (removed : String → Bool) (capabilities : Capabilities) : Capabilities :=
  let default : Capabilities := {}
  { name := Json.left (removed "name") default.name capabilities.name
    uuid := Json.left (removed "uuid") default.uuid capabilities.uuid
    path := Json.left (removed "path") default.path capabilities.path
    faceDownTray :=
      Json.left (removed "face_down_tray") default.faceDownTray capabilities.faceDownTray
    supportedScalings :=
      Json.left (removed "supported_scalings")
        default.supportedScalings capabilities.supportedScalings
    defaultScaling :=
      Json.left (removed "default_scaling") default.defaultScaling capabilities.defaultScaling
    mediaDefault :=
      Json.left (removed "media_default") default.mediaDefault capabilities.mediaDefault
    supportedMediaTypes :=
      Json.left (removed "supported_media_types")
        default.supportedMediaTypes capabilities.supportedMediaTypes
    supportedMediaSizes :=
      Json.left (removed "supported_media_sizes")
        default.supportedMediaSizes capabilities.supportedMediaSizes
    ippVersionMajor :=
      Json.left (removed "ipp_version_major") default.ippVersionMajor capabilities.ippVersionMajor
    ippVersionMinor :=
      Json.left (removed "ipp_version_minor") default.ippVersionMinor capabilities.ippVersionMinor
    inputFormats :=
      ⟨Json.left (removed "supported_input_formats")
        default.inputFormats.bits capabilities.inputFormats.bits⟩
    duplex := Json.left (removed "duplex") default.duplex capabilities.duplex
    borderless := Json.left (removed "borderless") default.borderless capabilities.borderless
    color := Json.left (removed "color") default.color capabilities.color
    isSupported := Json.left (removed "is_supported") default.isSupported capabilities.isSupported
    certificate := Json.left (removed "certificate") default.certificate capabilities.certificate }

theorem ofJson?_of_remains {removed : String → Bool} {capabilities : Capabilities} {part : Json}
    (h : Json.Remains removed capabilities.toJson part) :
    ofJson? part = some (capabilities.without removed) := by
  obtain ⟨fields, hf, hg⟩ := h.exists_given fieldNames 0 (by simp [fieldNames]) (by simp)
  refine Json.bind_eq_some hf ?_
  refine Json.bind_eq_some (hg.read_left (Json.toText?_text capabilities.name) (by simp)) ?_
  refine Json.bind_eq_some (hg.read_left (Json.toText?_text capabilities.uuid) (by simp)) ?_
  refine Json.bind_eq_some (hg.read_left (Json.toText?_text capabilities.path) (by simp)) ?_
  refine Json.bind_eq_some
    (hg.read_left (Json.toBool?_bool capabilities.faceDownTray) (by simp)) ?_
  refine Json.bind_eq_some
    (hg.read_left (Json.toList?_text capabilities.supportedScalings) (by simp)) ?_
  refine Json.bind_eq_some
    (hg.read_left (Json.toText?_text capabilities.defaultScaling) (by simp)) ?_
  refine Json.bind_eq_some
    (hg.read_left (Json.toText?_text capabilities.mediaDefault) (by simp)) ?_
  refine Json.bind_eq_some
    (hg.read_left (Json.toList?_ofUInt32 capabilities.supportedMediaTypes) (by simp)) ?_
  refine Json.bind_eq_some
    (hg.read_left (Json.toList?_ofUInt32 capabilities.supportedMediaSizes) (by simp)) ?_
  refine Json.bind_eq_some
    (hg.read_left (Json.toUInt32?_ofUInt32 capabilities.ippVersionMajor) (by simp)) ?_
  refine Json.bind_eq_some
    (hg.read_left (Json.toUInt32?_ofUInt32 capabilities.ippVersionMinor) (by simp)) ?_
  refine Json.bind_eq_some
    (hg.read_left (Json.toWord?_ofWord capabilities.inputFormats.bits) (by simp)) ?_
  refine Json.bind_eq_some (hg.read_left (Json.toBool?_bool capabilities.duplex) (by simp)) ?_
  refine Json.bind_eq_some (hg.read_left (Json.toBool?_bool capabilities.borderless) (by simp)) ?_
  refine Json.bind_eq_some (hg.read_left (Json.toBool?_bool capabilities.color) (by simp)) ?_
  refine Json.bind_eq_some (hg.read_left (Json.toBool?_bool capabilities.isSupported) (by simp)) ?_
  refine Json.bind_eq_some
    (hg.read_left (Json.toOption?_bytes capabilities.certificate) (by simp)) ?_
  rfl

end Capabilities

namespace Parameters

/-- Parameters with the removed ones reset. The flags are no part of the record. -/
def without (removed : String → Bool) (params : Parameters) : Parameters :=
  let default : Parameters := {}
  { jobName := Json.left (removed "job_name") default.jobName params.jobName
    originatingUser :=
      Json.left (removed "originating_user") default.originatingUser params.originatingUser
    numCopies := Json.left (removed "num_copies") default.numCopies params.numCopies
    duplex := Json.left (removed "duplex") default.duplex params.duplex
    render := Json.left (removed "render") default.render params.render
    alignment := ⟨Json.left (removed "alignment") default.alignment.bits params.alignment.bits⟩
    renderFlags := .empty
    pageMargins := Json.left (removed "page_margins") default.pageMargins params.pageMargins
    jobMargins := Json.left (removed "job_margins") default.jobMargins params.jobMargins
    documentCategory :=
      Json.left (removed "document_category") default.documentCategory params.documentCategory
    pageRange := Json.left (removed "page_range") default.pageRange params.pageRange
    sharedPhoto := Json.left (removed "shared_photo") default.sharedPhoto params.sharedPhoto
    preserveScaling :=
      Json.left (removed "preserve_scaling") default.preserveScaling params.preserveScaling
    printScaling := Json.left (removed "print_scaling") default.printScaling params.printScaling
    jobPagesPerSet :=
      Json.left (removed "job_pages_per_set") default.jobPagesPerSet params.jobPagesPerSet
    certificate := Json.left (removed "certificate") default.certificate params.certificate }

theorem ofJson?_of_remains {removed : String → Bool} {params : Parameters} {part : Json}
    (hm : params.HasFiniteMargins) (h : Json.Remains removed params.toJson part) :
    ofJson? part = some (params.without removed) := by
  obtain ⟨fields, hf, hg⟩ := h.exists_given fieldNames 0 (by simp [fieldNames]) (by simp)
  refine Json.bind_eq_some hf ?_
  refine Json.bind_eq_some (hg.read_left (Json.toText?_text params.jobName) (by simp)) ?_
  refine Json.bind_eq_some (hg.read_left (Json.toText?_text params.originatingUser) (by simp)) ?_
  refine Json.bind_eq_some (hg.read_left (Json.toUInt32?_ofUInt32 params.numCopies) (by simp)) ?_
  refine Json.bind_eq_some (hg.read_left (Duplex.ofJson?_toJson params.duplex) (by simp)) ?_
  refine Json.bind_eq_some
    (hg.read_left (Render.Request.ofJson?_toJson params.render) (by simp)) ?_
  refine Json.bind_eq_some (hg.read_left (Json.toWord?_ofWord params.alignment.bits) (by simp)) ?_
  refine Json.bind_eq_some (hg.read_left (Margin.ofJson?_toJson hm.page) (by simp)) ?_
  refine Json.bind_eq_some (hg.read_left (Margin.ofJson?_toJson hm.job) (by simp)) ?_
  refine Json.bind_eq_some (hg.read_left (Json.toText?_text params.documentCategory) (by simp)) ?_
  refine Json.bind_eq_some (hg.read_left (Json.toOption?_text params.pageRange) (by simp)) ?_
  refine Json.bind_eq_some (hg.read_left (Json.toBool?_bool params.sharedPhoto) (by simp)) ?_
  refine Json.bind_eq_some (hg.read_left (Json.toBool?_bool params.preserveScaling) (by simp)) ?_
  refine Json.bind_eq_some (hg.read_left (Json.toText?_text params.printScaling) (by simp)) ?_
  refine Json.bind_eq_some
    (hg.read_left (Json.toUInt32?_ofUInt32 params.jobPagesPerSet) (by simp)) ?_
  refine Json.bind_eq_some (hg.read_left (Json.toOption?_bytes params.certificate) (by simp)) ?_
  rfl

end Parameters

namespace Descriptor

/-- A descriptor is read as long as its path and its type are there; only the number of pages has a
default value. -/
theorem ofJson?_of_remains {removed : String → Bool} {descriptor : Descriptor} {part : Json}
    (h : Json.Remains removed descriptor.toJson part) :
    ofJson? part =
      if removed "path" || removed "mime_type" then none
      else some { descriptor with
        pageCount := Json.left (removed "page_count") 0 descriptor.pageCount } := by
  obtain ⟨fields, hf, hg⟩ := h.exists_given fieldNames 0 (by simp [fieldNames]) (by simp)
  have hopen : ofJson? part = (part.fields? fieldNames 0).bind fun fields =>
      (fields.read "path" Json.toText? none).bind fun path =>
      (fields.read "mime_type" Json.toText? none).bind fun mimeType =>
      (fields.read "page_count" Json.toUInt32? (some 0)).bind fun pageCount =>
      some { path, mimeType, pageCount } := rfl
  have hcount : fields.read "page_count" Json.toUInt32? (some 0) =
      some (Json.left (removed "page_count") 0 descriptor.pageCount) :=
    hg.read_left (Json.toUInt32?_ofUInt32 descriptor.pageCount) (by simp)
  rw [hopen, hf, Option.bind_some, hcount]
  cases hpath : removed "path" with
  | true =>
      rw [hg.read_removed hpath]
      rfl
  | false =>
      rw [hg.read_member hpath (Json.toText?_text descriptor.path) (by simp)]
      cases htype : removed "mime_type" with
      | true =>
          rw [hg.read_removed htype]
          rfl
      | false =>
          rw [hg.read_member htype (Json.toText?_text descriptor.mimeType) (by simp)]
          rfl

end Descriptor

end PrintJob
