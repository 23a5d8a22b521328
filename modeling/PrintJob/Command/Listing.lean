import PrintJob.Job.Settled
import PrintJob.Json.Printer
import PrintJob.Records.Job
import PrintJob.Text.Base64

/-! # Listings

A settled job shown as lines of text or as JSON. -/

namespace PrintJob

/-- How a step is shown. -/
def PageStep.describe (step : PageStep) : String :=
  match step.content, step.document with
  | some path, some document =>
    "doc " ++ toString document ++ " " ++ path ++ " page " ++ toString step.pageNumber ++
      (if step.pdfPassthrough then " [pdf]" else "")
  | _, _ => "end-of-document (page " ++ toString step.pageNumber ++ ")"

namespace Command

/-- A number in at least three columns, flush right. -/
def threeColumns (n : Nat) : String :=
  let digits := Text.decimal n
  String.ofList (List.replicate (3 - digits.length) ' ' ++ digits)

/-- The numbered lines for steps, the first of them with the number given. -/
def stepLines : Nat → List PageStep → List String
  | _, [] => []
  | number, step :: rest =>
    (threeColumns number ++ ". " ++ step.describe) :: stepLines (number + 1) rest

/-- A scaling directive, or a word for none. -/
def scalingLabel (directive : String) : String :=
  if directive.isEmpty then "<unset>" else directive

/-- A settled job as lines of text. -/
def planLines (settled : SettledJob) : List String :=
  [ "format: " ++ settled.format.mimeType,
    "stacking: " ++ settled.stacking.name,
    "duplex: " ++ settled.params.duplex.name ++
      (if settled.smartDuplex then " (smart duplex)" else ""),
    "print-scaling: " ++ scalingLabel settled.params.printScaling,
    "pages-per-set: " ++ toString settled.params.jobPagesPerSet.toNat ] ++
  stepLines 1 settled.plan.steps ++
  ["  -. " ++ settled.plan.endMarker.describe]

def planJson (settled : SettledJob) : Json :=
  .record
    [("job_name", .text settled.params.jobName), ("mime_type", .text settled.mimeType),
      ("format", settled.format.toJson), ("stacking", settled.stacking.toJson),
      ("duplex", settled.params.duplex.toJson), ("smart_duplex", .bool settled.smartDuplex),
      ("print_scaling", .text settled.params.printScaling),
      ("render_flags", .ofWord settled.params.renderFlags.bits),
      ("job_pages_per_set", .ofUInt32 settled.params.jobPagesPerSet),
      ("certificate",
        .ofOption (fun bytes => .text (String.ofList (Text.Base64.encode bytes)))
          settled.params.certificate),
      ("plan", settled.plan.toJson)]

end Command

end PrintJob
