import Rhythm.Pdf
import Rhythm.Text

/-!
# Rhythm.Suites.ReportPdf

The report of a deployment as a PDF file: one page, whose content stream shows the lines of the
report one below the other.  `renderDeploymentPDF_wellFormed`: whatever the report says, a reader
finds every object where the table says, and the lines in the stream.
-/

namespace Rhythm.Suites.ReportPdf

open Text Pdf

variable {φ τ : Type}

/-! ## The report -/

/-- How Go writes floats (`%.1f`) and times (`time.RFC3339`). -/
structure Formats (φ τ : Type) where
  fixed1 : φ → String
  rfc3339 : τ → String

structure Distribution (φ : Type) where
  sampleCount : Int
  p95MS : Int
  successRate : φ

/-- What the report says of a monitor; of a browser monitor it says the same. -/
structure MonitorComparison (φ : Type) where
  monitorName : String
  classification : String
  baseline : Distribution φ
  post : Distribution φ
  deltaPercent : φ

abbrev BrowserComparison := MonitorComparison

structure CheckResult where
  name : String
  queryId : String
  externalTriggerName : String
  alertState : String
  status : String
  hitCount : Int

structure DynatraceComparison where
  name : String
  status : String
  decision : String

structure DeploymentDetails where
  deploymentId : String
  version : String

structure DeploymentReport (φ τ : Type) where
  suiteName : String
  gateDecision : String
  recommendation : String
  deployment : DeploymentDetails
  baselineFrom : τ
  baselineTo : τ
  monitors : List (MonitorComparison φ)
  browserMonitors : List (BrowserComparison φ)
  dynatraceResults : List DynatraceComparison
  elfResults : List CheckResult
  alertResults : List CheckResult

/-! ## Its lines -/

def reportDuration (distribution : Distribution φ) : String :=
  if distribution.sampleCount = 0 then "Not recorded"
  else toString distribution.p95MS ++ " ms"

variable (formats : Formats φ τ)

def successLine (monitor : MonitorComparison φ) : String :=
  "  success before " ++ formats.fixed1 monitor.baseline.successRate ++ "% | after " ++
    formats.fixed1 monitor.post.successRate ++ "%"

def monitorLines (monitor : MonitorComparison φ) : List String :=
  [monitor.monitorName ++ " — " ++ monitor.classification,
    "  p95 before " ++ toString monitor.baseline.p95MS ++ " ms | after " ++
      toString monitor.post.p95MS ++ " ms | change " ++ formats.fixed1 monitor.deltaPercent ++ "%",
    successLine formats monitor]

def browserLines (monitor : BrowserComparison φ) : List String :=
  [monitor.monitorName ++ " — " ++ monitor.classification,
    "  journey p95 before " ++ reportDuration monitor.baseline ++ " | after " ++
      reportDuration monitor.post ++ " | change " ++ formats.fixed1 monitor.deltaPercent ++ "%",
    successLine formats monitor]

/-- The lines that `renderDeploymentPDF` collects first. -/
def reportLines (report : DeploymentReport φ τ) : List String :=
  ["Rhythm deployment validation report", report.suiteName, "Decision: " ++ report.gateDecision,
    "Recommendation: " ++ report.recommendation,
    "Deployment: " ++ defaultString report.deployment.deploymentId "Not supplied",
    "Version: " ++ defaultString report.deployment.version "Not supplied",
    "Baseline: " ++ formats.rfc3339 report.baselineFrom ++ " to " ++
      formats.rfc3339 report.baselineTo, ""] ++
  report.monitors.flatMap (monitorLines formats) ++
  (if report.browserMonitors = [] then []
    else ["", "UI journey validation (controlled synthetic measurements)"] ++
      report.browserMonitors.flatMap (browserLines formats)) ++
  (if report.elfResults = [] then []
    else ["", "ELF log checks"] ++ report.elfResults.map fun result =>
      defaultString result.name result.queryId ++ " — " ++ result.status ++ " — " ++
        toString result.hitCount ++ " hits") ++
  (if report.dynatraceResults = [] then []
    else ["", "Dynatrace infrastructure checks"] ++ report.dynatraceResults.map fun result =>
      defaultString result.name "Dynatrace infrastructure" ++ " — " ++ result.status ++ " — " ++
        result.decision) ++
  (if report.alertResults = [] then []
    else ["", "OpenSearch alert checks"] ++ report.alertResults.map fun result =>
      defaultString result.name result.externalTriggerName ++ " — " ++ result.status ++ " — " ++
        defaultString result.alertState "not observed")

/-! ## The file -/

/-- The `strings.Map` of `pdfEscape`: a hyphen for what is not printable ASCII. -/
def transliterate (value : String) : Bytes :=
  value.toList.map fun r => if r.toNat > 126 then '-'.toUInt8 else r.toUInt8

def pdfEscape (value : String) : Bytes :=
  (transliterate value).flatMap fun b =>
    if b = backslash then ascii "\\\\"
    else if b = opening then ascii "\\("
    else if b = closing then ascii "\\)"
    else [b]

def showLines : Nat → List String → Bytes
  | _, [] => []
  | index, line :: lines =>
    (if index > 0 then ascii "0 -16 Td " else []) ++
      (ascii "(" ++ (pdfEscape line ++ ascii ") Tj ")) ++ showLines (index + 1) lines

def content (lines : List String) : Bytes :=
  ascii "BT /F1 11 Tf 48 790 Td " ++ showLines 0 lines ++ ascii "ET"

def pdfObjects (stream : Bytes) : List Bytes :=
  [ascii "<< /Type /Catalog /Pages 2 0 R >>",
    ascii "<< /Type /Pages /Kids [3 0 R] /Count 1 >>",
    ascii "<< /Type /Page /Parent 2 0 R /MediaBox [0 0 612 842] " ++
      ascii "/Resources << /Font << /F1 5 0 R >> >> /Contents 4 0 R >>",
    ascii "<< /Length " ++ (decimal stream.length ++ (ascii " >>\nstream\n" ++
      (stream ++ ascii "\nendstream"))),
    ascii "<< /Type /Font /Subtype /Type1 /BaseFont /Helvetica >>"]

def writeObject (number : Nat) (object : Bytes) : Bytes :=
  decimal number ++ (ascii " 0 obj\n" ++ (object ++ ascii "\nendobj\n"))

/-- The loop over the objects: each is written behind what is there, its offset noted. -/
def writeObjects : Bytes → List Nat → Nat → List Bytes → Bytes × List Nat
  | out, offsets, _, [] => (out, offsets)
  | out, offsets, index, object :: objects =>
    writeObjects (out ++ writeObject (index + 1) object) (offsets ++ [out.length]) (index + 1)
      objects

def xrefTable (count : Nat) (offsets : List Nat) : Bytes :=
  ascii "xref\n0 " ++ decimal (count + 1) ++ ascii "\n0000000000 65535 f \n" ++
    offsets.flatMap fun offset => padded 10 offset ++ ascii " 00000 n \n"

def trailer (count xref : Nat) : Bytes :=
  ascii "trailer << /Size " ++ decimal (count + 1) ++ ascii " /Root 1 0 R >>\nstartxref\n" ++
    decimal xref ++ ascii "\n%%EOF"

def writeFile (objects : List Bytes) : Bytes :=
  let written := writeObjects (ascii "%PDF-1.4\n") [0] 0 objects
  written.1 ++ (xrefTable objects.length written.2.tail ++ trailer objects.length written.1.length)

def renderDeploymentPDF (report : DeploymentReport φ τ) : Bytes :=
  writeFile (pdfObjects (content (reportLines formats report)))

/-! ## What a reader finds -/

def isPage (object : Bytes) : Bool := (expect (ascii "<< /Type /Page /") object).isSome

def pageNumbers (objects : List Bytes) : List Nat :=
  (objects.zipIdx 1).filterMap fun p => if isPage p.1 then some p.2 else none

def pageTree (pages : List Nat) : Bytes :=
  ascii "<< /Type /Pages /Kids [" ++ (ascii " ").intercalate (pages.map reference) ++
    ascii "] /Count " ++ decimal pages.length ++ ascii " >>"

/-- **A well-formed report**: the objects stand where the table says; the catalog leads to the page
tree, which lists the pages written; the page leads to the stream, which is as long as it says, and
whose text operands are the given texts. -/
structure WellFormed (pdf : Bytes) (objects : List Bytes) (stream : Bytes) (texts : List Bytes) :
    Prop where
  holds : Holds pdf objects
  catalog : objects[0]? = some (ascii "<< /Type /Catalog /Pages " ++ reference 2 ++ ascii " >>")
  pages : objects[1]? = some (pageTree (pageNumbers objects))
  contents : ∃ front, objects[2]? = some (front ++ ascii "/Contents " ++ reference 4 ++ ascii " >>")
  length : objects[3]?.bind readStream = some stream
  texts : strings stream = texts

/-! ## Objects where the table says -/

theorem writeObjects_eq (objects : List Bytes) :
    ∀ out offsets index, ∃ tail found,
      writeObjects out offsets index objects = (out ++ tail, offsets ++ found) ∧
        found.length = objects.length ∧
        ∀ k offset object, found[k]? = some offset → objects[k]? = some object →
          ∃ front rest, out ++ tail = front ++ (writeObject (index + k + 1) object ++ rest) ∧
            front.length = offset := by
  induction objects with
  | nil =>
    intro out offsets index
    exact ⟨[], [], by simp [writeObjects], rfl, by simp⟩
  | cons object objects ih =>
    intro out offsets index
    obtain ⟨tail, found, hwrite, hlength, hfound⟩ :=
      ih (out ++ writeObject (index + 1) object) (offsets ++ [out.length]) (index + 1)
    refine ⟨writeObject (index + 1) object ++ tail, out.length :: found, ?_, by simp [hlength], ?_⟩
    · rw [writeObjects, hwrite]
      simp
    · rintro (_ | k) offset object' hoffset hobject
      · simp only [List.getElem?_cons_zero, Option.some.injEq] at hoffset hobject
        subst hoffset hobject
        exact ⟨out, tail, rfl, rfl⟩
      · obtain ⟨front, rest, heq, hfront⟩ := hfound k offset object' hoffset hobject
        refine ⟨front, rest, ?_, hfront⟩
        rw [← List.append_assoc, heq]
        congr 3
        omega

theorem readXref_table (offsets : List Nat) (rest : Bytes) :
    readXref (xrefTable offsets.length offsets ++ rest) = some (offsets, rest) := by
  simpa only [xrefTable, List.append_assoc] using readXref_append offsets rest

theorem trailer_eq (count xref : Nat) :
    trailer count xref =
      ascii "trailer << /Size " ++ decimal (count + 1) ++ ascii " /Root " ++ reference 1 ++
        ascii " >>\n" ++ (ascii "startxref\n" ++ (decimal xref ++ ascii "\n%%EOF")) := by
  have hroot : ascii " /Root 1 0 R >>\nstartxref\n" =
      ascii " /Root " ++ reference 1 ++ ascii " >>\n" ++ ascii "startxref\n" := rfl
  rw [trailer, hroot]
  simp only [List.append_assoc]

theorem startxref_trailer (front : Bytes) (count xref : Nat) :
    startxref (front ++ trailer count xref) = some xref := by
  rw [trailer_eq, ← List.append_assoc]
  exact startxref_append _ xref

theorem writeFile_holds (objects : List Bytes) : Holds (writeFile objects) objects := by
  obtain ⟨tail, found, hwrite, hlength, hfound⟩ :=
    writeObjects_eq objects (ascii "%PDF-1.4\n") [0] 0
  have hfile : writeFile objects = (ascii "%PDF-1.4\n" ++ tail) ++
      (xrefTable objects.length found ++
        trailer objects.length (ascii "%PDF-1.4\n" ++ tail).length) := by
    rw [writeFile, hwrite]
    rfl
  rw [hfile]
  refine ⟨(ascii "%PDF-1.4\n" ++ tail).length, found,
    ascii "startxref\n" ++ (decimal (ascii "%PDF-1.4\n" ++ tail).length ++ ascii "\n%%EOF"),
    ?_, ?_, hlength, ?_⟩
  · rw [← List.append_assoc]
    exact startxref_trailer _ _ _
  · rw [List.drop_left, ← hlength, readXref_table, trailer_eq]
  · intro k offset object hoffset hobject
    obtain ⟨front, rest, heq, rfl⟩ := hfound k offset object hoffset hobject
    rw [heq, List.append_assoc, List.drop_left, writeObject]
    simp only [List.append_assoc, Nat.zero_add]
    exact ⟨_, readHeader_append _ _⟩

/-! ## Lines in the stream -/

theorem pdfEscape_eq (value : String) : pdfEscape value = escape (transliterate value) := by
  refine List.flatMap_congr fun b _ => ?_
  by_cases hb : b = backslash
  · rw [if_pos hb, if_pos (Or.inl hb), hb]
    rfl
  · by_cases ho : b = opening
    · rw [if_neg hb, if_pos ho, if_pos (Or.inr (Or.inl ho)), ho]
      rfl
    · by_cases hc : b = closing
      · rw [if_neg hb, if_neg ho, if_pos hc, if_pos (Or.inr (Or.inr hc)), hc]
        rfl
      · simp [hb, ho, hc]

theorem forall_ne_opening {bytes : Bytes} (h : (bytes.all fun b => decide (b ≠ opening)) = true) :
    ∀ b ∈ bytes, b ≠ opening := fun b hb => of_decide_eq_true (List.all_eq_true.mp h b hb)

theorem strings_showLines (lines : List String) :
    ∀ index rest, strings (showLines index lines ++ rest) =
      lines.map transliterate ++ strings rest := by
  induction lines with
  | nil => simp [showLines]
  | cons line lines ih =>
    intro index rest
    have hmove : ∀ b ∈ (if index > 0 then ascii "0 -16 Td " else []), b ≠ opening := by
      split <;> exact forall_ne_opening (by decide)
    have hshow : ∀ b ∈ ascii " Tj ", b ≠ opening := forall_ne_opening (by decide)
    have hopen : ascii "(" = [opening] := rfl
    have hclose : ascii ") Tj " = closing :: ascii " Tj " := rfl
    rw [showLines, List.append_assoc, List.append_assoc, strings_skip hmove, hopen, hclose,
      pdfEscape_eq, List.singleton_append, List.cons_append, List.append_assoc, List.cons_append,
      strings_literal, strings_skip hshow, ih]
    rfl

theorem strings_content (lines : List String) :
    strings (content lines) = lines.map transliterate := by
  have hbegin : ∀ b ∈ ascii "BT /F1 11 Tf 48 790 Td ", b ≠ opening :=
    forall_ne_opening (by decide)
  have hend : strings (ascii "ET") = [] := by
    simpa [strings] using strings_skip (t := ascii "ET") (forall_ne_opening (by decide)) []
  rw [content, List.append_assoc, strings_skip hbegin, strings_showLines, hend, List.append_nil]

/-! ## The report is well formed -/

theorem pageNumbers_pdfObjects (stream : Bytes) : pageNumbers (pdfObjects stream) = [3] := by
  have hcatalog : isPage (ascii "<< /Type /Catalog /Pages 2 0 R >>") = false := rfl
  have htree : isPage (ascii "<< /Type /Pages /Kids [3 0 R] /Count 1 >>") = false := rfl
  have hpage : ∀ rest, isPage (ascii "<< /Type /Page /Parent 2 0 R /MediaBox [0 0 612 842] " ++
      rest) = true := fun _ => rfl
  have hstream : ∀ rest, isPage (ascii "<< /Length " ++ rest) = false := fun _ => rfl
  have hfont :
      isPage (ascii "<< /Type /Font /Subtype /Type1 /BaseFont /Helvetica >>") = false := rfl
  simp only [pageNumbers, pdfObjects, List.zipIdx_cons, List.zipIdx_nil, List.filterMap_cons,
    List.filterMap_nil, hcatalog, htree, hpage, hstream, hfont, if_true, Bool.false_eq_true,
    if_false]

/-- **The PDF report is well formed**, for every report. -/
theorem renderDeploymentPDF_wellFormed (report : DeploymentReport φ τ) :
    ∃ objects stream, WellFormed (renderDeploymentPDF formats report) objects stream
      ((reportLines formats report).map transliterate) := by
  refine ⟨pdfObjects (content (reportLines formats report)), content (reportLines formats report),
    ?_⟩
  exact {
    holds := writeFile_holds _
    catalog := rfl
    pages := by
      rw [pageNumbers_pdfObjects]
      rfl
    contents :=
      ⟨ascii "<< /Type /Page /Parent 2 0 R /MediaBox [0 0 612 842] " ++
        ascii "/Resources << /Font << /F1 5 0 R >> >> ", rfl⟩
    length := readStream_append _
    texts := strings_content _ }

end Rhythm.Suites.ReportPdf
