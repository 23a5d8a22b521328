import PrintJob.Job.Capabilities
import PrintJob.Job.Document
import PrintJob.Job.Parameters

/-! # Format and scaling

The format a job is sent in, and the scaling directive that goes with it. -/

namespace PrintJob

/-- The format a job is sent in. -/
inductive TransferFormat where
  /-- The content as it is. -/
  | pdf
  | pclm
  | pwgRaster
  deriving DecidableEq, Repr

namespace TransferFormat

/-- A PDF is sent as it is to a printer that accepts PDF. Everything else is rasterized, as PWG
raster where the printer accepts it. -/
def detect (mimeType : String) (capabilities : Capabilities) : TransferFormat :=
  if mimeType == pdfType && capabilities.inputFormats.contains .pdf then .pdf
  else if capabilities.inputFormats.contains .pwgRaster then .pwgRaster
  else .pclm

def isPassthrough : TransferFormat → Bool
  | .pdf => true
  | _ => false

def mimeType : TransferFormat → String
  | .pdf => "application/pdf"
  | .pclm => "application/PCLm"
  | .pwgRaster => "image/pwg-raster"

def name : TransferFormat → String
  | .pdf => "pdf"
  | .pclm => "pclm"
  | .pwgRaster => "pwg-raster"

end TransferFormat

namespace Scaling

def noScaling : String := "none"

def automatic : String := "auto"

def fit : String := "fit"

/-- The document category of photos, compared without regard to ASCII case. -/
def isPhotoCategory (category : String) : Bool :=
  category.toList.map Char.toLower == ['p', 'h', 'o', 't', 'o']

/-- A directive that the printer supports, or no directive. -/
def ifSupported (capabilities : Capabilities) (mode : String) : String :=
  if capabilities.acceptsScaling mode then mode else ""

/-- The scaling directive of a job; the empty text is no directive. Content that is already
rasterized, a shared photo and a job that keeps its scaling are not to be scaled. -/
def select (format : TransferFormat) (capabilities : Capabilities) (params : Parameters) : String :=
  if !format.isPassthrough then ifSupported capabilities noScaling
  else if (isPhotoCategory params.documentCategory && params.sharedPhoto) ||
      params.preserveScaling then
    ifSupported capabilities noScaling
  else if capabilities.acceptsScaling automatic then automatic
  else if !capabilities.defaultScaling.isEmpty then capabilities.defaultScaling
  else fit

/-- Stores the scaling directive of a job in its parameters. -/
def apply (format : TransferFormat) (capabilities : Capabilities) (params : Parameters) :
    Parameters :=
  { params with printScaling := select format capabilities params }

end Scaling

end PrintJob
