import PrintJob.Job.Plan
import PrintJob.Job.Scaling
import PrintJob.Json.Fields

/-! # Jobs as JSON

The records of a job as objects of named fields. A field that has a default value may be missing;
what a record holds is written with all its fields. -/

namespace PrintJob

/-! ## Named values -/

namespace Duplex

def table : List (String × Duplex) :=
  [("off", .off), ("long-edge", .longEdge), ("short-edge", .shortEdge)]

def toJson (duplex : Duplex) : Json := .text duplex.name

def ofJson? : Json → Option Duplex := Json.toNamed? table

end Duplex

namespace Stacking

def table : List (String × Stacking) := [("face-down", .faceDown), ("face-up", .faceUp)]

def toJson (stacking : Stacking) : Json := .text stacking.name

def ofJson? : Json → Option Stacking := Json.toNamed? table

end Stacking

namespace TransferFormat

def table : List (String × TransferFormat) :=
  [("pdf", .pdf), ("pclm", .pclm), ("pwg-raster", .pwgRaster)]

def toJson (format : TransferFormat) : Json := .text format.name

def ofJson? : Json → Option TransferFormat := Json.toNamed? table

end TransferFormat

/-! ## Words -/

namespace JobId

def toJson (job : JobId) : Json := .nat job.number.toNat

def ofJson? (value : Json) : Option JobId := value.toUInt32?.map (⟨·⟩)

end JobId

namespace Json

def ofWord (word : BitVec 32) : Json := .nat word.toNat

def toWord? (value : Json) : Option (BitVec 32) :=
  (value.toNatBelow? UInt32.size).map (BitVec.ofNat 32)

def ofUInt32 (n : UInt32) : Json := .nat n.toNat

end Json

/-! ## Records of measures -/

namespace Margin

def fieldNames : List String := ["top", "bottom", "left", "right"]

def toJson (margin : Margin) : Json :=
  .record
    [("top", .ofSingle margin.top), ("bottom", .ofSingle margin.bottom),
      ("left", .ofSingle margin.left), ("right", .ofSingle margin.right)]

def ofJson? (value : Json) : Option Margin := do
  let fields ← value.fields? fieldNames 0
  let top ← fields.read "top" Json.toSingle? none
  let bottom ← fields.read "bottom" Json.toSingle? none
  let left ← fields.read "left" Json.toSingle? none
  let right ← fields.read "right" Json.toSingle? none
  some { top, bottom, left, right }

end Margin

namespace Crop

def fieldNames : List String := ["top", "left", "width", "height"]

def toJson (crop : Crop) : Json :=
  .record
    [("top", .ofSingle crop.top), ("left", .ofSingle crop.left), ("width", .ofSingle crop.width),
      ("height", .ofSingle crop.height)]

def ofJson? (value : Json) : Option Crop := do
  let fields ← value.fields? fieldNames 0
  let top ← fields.read "top" Json.toSingle? none
  let left ← fields.read "left" Json.toSingle? none
  let width ← fields.read "width" Json.toSingle? none
  let height ← fields.read "height" Json.toSingle? none
  some { top, left, width, height }

end Crop

/-! ## The job -/

namespace Render.Request

def fieldNames : List String :=
  ["portrait", "landscape", "auto_rotate", "fill_page", "fit_to_page", "document_scaling"]

def toJson (request : Request) : Json :=
  .record
    [("portrait", .bool request.portrait), ("landscape", .bool request.landscape),
      ("auto_rotate", .bool request.autoRotate), ("fill_page", .bool request.fillPage),
      ("fit_to_page", .bool request.fitToPage),
      ("document_scaling", .bool request.documentScaling)]

def ofJson? (value : Json) : Option Request := do
  let fields ← value.fields? fieldNames 0
  let flag name := fields.read name Json.toBool? (some false)
  let portrait ← flag "portrait"
  let landscape ← flag "landscape"
  let autoRotate ← flag "auto_rotate"
  let fillPage ← flag "fill_page"
  let fitToPage ← flag "fit_to_page"
  let documentScaling ← flag "document_scaling"
  some { portrait, landscape, autoRotate, fillPage, fitToPage, documentScaling }

end Render.Request

namespace Descriptor

def fieldNames : List String := ["path", "mime_type", "page_count"]

def toJson (descriptor : Descriptor) : Json :=
  .record
    [("path", .text descriptor.path), ("mime_type", .text descriptor.mimeType),
      ("page_count", .ofUInt32 descriptor.pageCount)]

def ofJson? (value : Json) : Option Descriptor := do
  let fields ← value.fields? fieldNames 0
  let path ← fields.read "path" Json.toText? none
  let mimeType ← fields.read "mime_type" Json.toText? none
  let pageCount ← fields.read "page_count" Json.toUInt32? (some 0)
  some { path, mimeType, pageCount }

end Descriptor

namespace Capabilities

def fieldNames : List String :=
  ["name", "uuid", "path", "face_down_tray", "supported_scalings", "default_scaling",
    "media_default", "supported_media_types", "supported_media_sizes", "ipp_version_major",
    "ipp_version_minor", "supported_input_formats", "duplex", "borderless", "color",
    "is_supported", "certificate"]

def toJson (capabilities : Capabilities) : Json :=
  .record
    [("name", .text capabilities.name), ("uuid", .text capabilities.uuid),
      ("path", .text capabilities.path), ("face_down_tray", .bool capabilities.faceDownTray),
      ("supported_scalings", .ofList .text capabilities.supportedScalings),
      ("default_scaling", .text capabilities.defaultScaling),
      ("media_default", .text capabilities.mediaDefault),
      ("supported_media_types", .ofList .ofUInt32 capabilities.supportedMediaTypes),
      ("supported_media_sizes", .ofList .ofUInt32 capabilities.supportedMediaSizes),
      ("ipp_version_major", .ofUInt32 capabilities.ippVersionMajor),
      ("ipp_version_minor", .ofUInt32 capabilities.ippVersionMinor),
      ("supported_input_formats", .ofWord capabilities.inputFormats.bits),
      ("duplex", .bool capabilities.duplex), ("borderless", .bool capabilities.borderless),
      ("color", .bool capabilities.color), ("is_supported", .bool capabilities.isSupported),
      ("certificate", .ofOption .ofBytes capabilities.certificate)]

def ofJson? (value : Json) : Option Capabilities := do
  let fields ← value.fields? fieldNames 0
  let default : Capabilities := {}
  let name ← fields.read "name" Json.toText? (some default.name)
  let uuid ← fields.read "uuid" Json.toText? (some default.uuid)
  let path ← fields.read "path" Json.toText? (some default.path)
  let faceDownTray ← fields.read "face_down_tray" Json.toBool? (some default.faceDownTray)
  let supportedScalings ←
    fields.read "supported_scalings" (Json.toList? Json.toText?) (some default.supportedScalings)
  let defaultScaling ← fields.read "default_scaling" Json.toText? (some default.defaultScaling)
  let mediaDefault ← fields.read "media_default" Json.toText? (some default.mediaDefault)
  let supportedMediaTypes ←
    fields.read "supported_media_types" (Json.toList? Json.toUInt32?)
      (some default.supportedMediaTypes)
  let supportedMediaSizes ←
    fields.read "supported_media_sizes" (Json.toList? Json.toUInt32?)
      (some default.supportedMediaSizes)
  let ippVersionMajor ←
    fields.read "ipp_version_major" Json.toUInt32? (some default.ippVersionMajor)
  let ippVersionMinor ←
    fields.read "ipp_version_minor" Json.toUInt32? (some default.ippVersionMinor)
  let formats ←
    fields.read "supported_input_formats" Json.toWord? (some default.inputFormats.bits)
  let duplex ← fields.read "duplex" Json.toBool? (some default.duplex)
  let borderless ← fields.read "borderless" Json.toBool? (some default.borderless)
  let color ← fields.read "color" Json.toBool? (some default.color)
  let isSupported ← fields.read "is_supported" Json.toBool? (some default.isSupported)
  let certificate ←
    fields.read "certificate" (Json.toOption? Json.toBytes?) (some default.certificate)
  some
    { name, uuid, path, faceDownTray, supportedScalings, defaultScaling, mediaDefault,
      supportedMediaTypes, supportedMediaSizes, ippVersionMajor, ippVersionMinor,
      inputFormats := ⟨formats⟩, duplex, borderless, color, isSupported, certificate }

end Capabilities

namespace Parameters

def fieldNames : List String :=
  ["job_name", "originating_user", "num_copies", "duplex", "render", "alignment", "page_margins",
    "job_margins", "document_category", "page_range", "shared_photo", "preserve_scaling",
    "print_scaling", "job_pages_per_set", "certificate"]

/-- The flags are no part of the record. -/
def toJson (params : Parameters) : Json :=
  .record
    [("job_name", .text params.jobName), ("originating_user", .text params.originatingUser),
      ("num_copies", .ofUInt32 params.numCopies), ("duplex", params.duplex.toJson),
      ("render", params.render.toJson), ("alignment", .ofWord params.alignment.bits),
      ("page_margins", params.pageMargins.toJson), ("job_margins", params.jobMargins.toJson),
      ("document_category", .text params.documentCategory),
      ("page_range", .ofOption .text params.pageRange),
      ("shared_photo", .bool params.sharedPhoto),
      ("preserve_scaling", .bool params.preserveScaling),
      ("print_scaling", .text params.printScaling),
      ("job_pages_per_set", .ofUInt32 params.jobPagesPerSet),
      ("certificate", .ofOption .ofBytes params.certificate)]

def ofJson? (value : Json) : Option Parameters := do
  let fields ← value.fields? fieldNames 0
  let default : Parameters := {}
  let jobName ← fields.read "job_name" Json.toText? (some default.jobName)
  let originatingUser ← fields.read "originating_user" Json.toText? (some default.originatingUser)
  let numCopies ← fields.read "num_copies" Json.toUInt32? (some default.numCopies)
  let duplex ← fields.read "duplex" Duplex.ofJson? (some default.duplex)
  let render ← fields.read "render" Render.Request.ofJson? (some default.render)
  let alignment ← fields.read "alignment" Json.toWord? (some default.alignment.bits)
  let pageMargins ← fields.read "page_margins" Margin.ofJson? (some default.pageMargins)
  let jobMargins ← fields.read "job_margins" Margin.ofJson? (some default.jobMargins)
  let documentCategory ←
    fields.read "document_category" Json.toText? (some default.documentCategory)
  let pageRange ← fields.read "page_range" (Json.toOption? Json.toText?) (some default.pageRange)
  let sharedPhoto ← fields.read "shared_photo" Json.toBool? (some default.sharedPhoto)
  let preserveScaling ← fields.read "preserve_scaling" Json.toBool? (some default.preserveScaling)
  let printScaling ← fields.read "print_scaling" Json.toText? (some default.printScaling)
  let jobPagesPerSet ← fields.read "job_pages_per_set" Json.toUInt32? (some default.jobPagesPerSet)
  let certificate ←
    fields.read "certificate" (Json.toOption? Json.toBytes?) (some default.certificate)
  some
    { jobName, originatingUser, numCopies, duplex, render, alignment := ⟨alignment⟩, pageMargins,
      jobMargins, documentCategory, pageRange, sharedPhoto, preserveScaling, printScaling,
      jobPagesPerSet, certificate }

end Parameters

/-! ## The plan -/

namespace PageStep

def fieldNames : List String :=
  ["document", "page_number", "content", "last_page", "pdf_passthrough", "crop"]

def toJson (step : PageStep) : Json :=
  .record
    [("document", .ofOption .nat step.document), ("page_number", .nat step.pageNumber),
      ("content", .ofOption .text step.content), ("last_page", .bool step.lastPage),
      ("pdf_passthrough", .bool step.pdfPassthrough),
      ("crop", .ofOption Crop.toJson step.crop)]

/-- The fields that may be null may also be missing, but not from an array. -/
def ofJson? (value : Json) : Option PageStep := do
  let fields ← value.fields? fieldNames fieldNames.length
  let document ← fields.read "document" (Json.toOption? (Json.toNatBelow? UInt64.size)) (some none)
  let pageNumber ← fields.read "page_number" (Json.toNatBelow? UInt32.size) none
  let content ← fields.read "content" (Json.toOption? Json.toText?) (some none)
  let lastPage ← fields.read "last_page" Json.toBool? none
  let pdfPassthrough ← fields.read "pdf_passthrough" Json.toBool? none
  let crop ← fields.read "crop" (Json.toOption? Crop.ofJson?) (some none)
  some { document, pageNumber, content, lastPage, pdfPassthrough, crop }

end PageStep

/-- The steps of a plan and its end marker. -/
def Plan.toJson (plan : Plan) : Json :=
  .record
    [("requests", .ofList PageStep.toJson plan.steps),
      ("end_marker", plan.endMarker.toJson)]

end PrintJob
