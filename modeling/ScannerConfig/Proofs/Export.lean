import Mathlib
import ScannerConfig.Output.Render
import ScannerConfig.Proofs.DataUri
import ScannerConfig.Proofs.JsonText
import ScannerConfig.Proofs.NormalizedNesting
import ScannerConfig.Proofs.ParsedKeys
import ScannerConfig.Transfer.Export
import ScannerConfig.Transfer.Upload

namespace ScannerConfig

namespace Upload

theorem schemeBytes_eq : schemeBytes = [0x64, 0x61, 0x74, 0x61, 0x3A] := by
  decide

/-- A text that starts like a JSON value is read as one. -/
theorem parse_plain {b : UInt8} {rest : List UInt8} (start : Json.Parser.IsStart b) :
    parse (b :: rest) = (Json.parse (b :: rest)).mapError Fault.json := by
  have noMark : byteOrderMark.isPrefixOf (b :: rest) = false := by
    have different : (0xEF : UInt8) ≠ b := (start.different (by decide) (by decide)).symm
    simp [byteOrderMark, List.isPrefixOf, different]
  have noBlank : Blank.isBlankByte b = false := by
    have different := fun {c : UInt8} => start.different (c := c)
    simp [Blank.isBlankByte, different (by decide : Json.Parser.isDigit 0x20 = false) (by decide),
      different (by decide : Json.Parser.isDigit 0x09 = false) (by decide),
      different (by decide : Json.Parser.isDigit 0x0A = false) (by decide),
      different (by decide : Json.Parser.isDigit 0x0C = false) (by decide),
      different (by decide : Json.Parser.isDigit 0x0D = false) (by decide)]
  have noScheme : schemeBytes.isPrefixOf (b :: rest) = false := by
    have different : (0x64 : UInt8) ≠ b := (start.different (by decide) (by decide)).symm
    simp [schemeBytes_eq, List.isPrefixOf, different]
  simp [parse, withoutMark, noMark, List.dropWhile_cons_of_neg, noBlank, noScheme]

theorem withoutMark_marked {mark bytes : List UInt8} (marked : mark = [] ∨ mark = byteOrderMark)
    (noMark : byteOrderMark.isPrefixOf bytes = false) : withoutMark (mark ++ bytes) = bytes := by
  rcases marked with rfl | rfl
  · simp [withoutMark, noMark]
  · have starts : byteOrderMark.isPrefixOf (byteOrderMark ++ bytes) = true := by
      rw [List.isPrefixOf_iff_prefix]
      exact List.prefix_append _ _
    rw [withoutMark, if_pos starts]
    rfl

/-- Of a data URI after a mark and blanks, the document is the payload. -/
theorem parse_uri {mark before payload : List UInt8} {uri : List Char}
    (marked : mark = [] ∨ mark = byteOrderMark)
    (blankBefore : ∀ b ∈ before, Blank.isBlankByte b = true)
    (starts : DataUri.scheme.isPrefixOf uri = true) (decoded : DataUri.decode uri = .ok payload) :
    parse (mark ++ before ++ Utf8.encode uri) = (Json.parse payload).mapError Fault.json := by
  obtain ⟨more, rfl⟩ := List.isPrefixOf_iff_prefix.mp starts
  have text : Utf8.encode (DataUri.scheme ++ more) = schemeBytes ++ Utf8.encode more :=
    Utf8.encode_append _ _
  have noMark : byteOrderMark.isPrefixOf (before ++ Utf8.encode (DataUri.scheme ++ more)) = false := by
    rw [text, schemeBytes_eq]
    cases before with
    | nil => rfl
    | cons b before =>
      have different : (0xEF : UInt8) ≠ b := by
        rintro rfl
        exact absurd (blankBefore _ List.mem_cons_self) (by decide)
      simp [byteOrderMark, List.isPrefixOf, different]
  have trimmed : (before ++ Utf8.encode (DataUri.scheme ++ more)).dropWhile Blank.isBlankByte =
      Utf8.encode (DataUri.scheme ++ more) := by
    rw [List.dropWhile_append_of_pos blankBefore, text, schemeBytes_eq]
    rfl
  have schemed : schemeBytes.isPrefixOf (Utf8.encode (DataUri.scheme ++ more)) = true := by
    rw [text, List.isPrefixOf_iff_prefix]
    exact List.prefix_append _ _
  rw [parse, List.append_assoc, withoutMark_marked marked noMark]
  simp only [trimmed, schemed, Utf8.decode_encode, decoded, if_true]

/-- An upload that is read has no repeated keys and is not nested too deep. -/
theorem fits_of_parse {bytes : List UInt8} {document : Json} (read : parse bytes = .ok document) :
    Json.Parser.Fits Json.Parser.maxDepth document := by
  have inner : ∀ text, (Json.parse text).mapError Fault.json = .ok document →
      Json.Parser.Fits Json.Parser.maxDepth document := by
    intro text same
    cases parsed : Json.parse text with
    | error fault => simp [parsed, Except.mapError] at same
    | ok found =>
      rw [parsed] at same
      cases same
      exact Json.fits_of_parse parsed
  simp only [parse] at read
  split at read
  · split at read
    · cases read
    · split at read
      · cases read
      · exact inner _ read
  · exact inner _ read

end Upload

theorem ExportFile.mime_plain : ¬DataUri.marker <:+: ExportFile.mime.toList := by
  decide

/-- Every way out of the program leads back to the document: the export file, its data URI
with a mark and blanks in front and blanks behind, and both printed forms of JSON. -/
structure Lossless (document : Json) (seconds : Int) : Prop where
  file : Upload.parse (ExportFile.ofDocument document seconds).bytes = .ok document
  uri : ∀ mark before after, (mark = [] ∨ mark = Upload.byteOrderMark) →
    (∀ b ∈ before, Blank.isBlankByte b = true) → (∀ c ∈ after, Blank.isBlank c = true) →
    Upload.parse (mark ++ before ++
      Utf8.encode ((ExportFile.ofDocument document seconds).dataUri.toList ++ after)) = .ok document
  printed : ∀ format ∈ [OutputFormat.json, .compact],
    Upload.parse (Utf8.encode (format.render document).toList) = .ok document

section

variable {document : Json} (keyed : document.wellKeyed = true)
  (integral : document.integral = true) (shallow : document.depth ≤ Json.Parser.maxDepth)

include keyed integral shallow

theorem Upload.parse_render (layout : Json.Layout) :
    Upload.parse (Utf8.encode (document.render layout).toList) = .ok document := by
  obtain ⟨b, body, starts, start⟩ := Json.Parser.starts_value integral layout 0
  have text : Utf8.encode (document.render layout).toList = b :: body := by
    rw [← starts, Json.render, String.toList_ofList]
    rfl
  have read := Json.parse_render layout keyed integral shallow
  rw [text] at read ⊢
  rw [parse_plain start, read]
  rfl

theorem lossless (seconds : Int) : Lossless document seconds where
  file := Upload.parse_render keyed integral shallow .indented
  uri := by
    intro mark before after marked blankBefore blankAfter
    let payload := Utf8.encode document.pretty.toList
    have decoded : DataUri.decode ([] ++ DataUri.encode ExportFile.mime payload ++ after) =
        .ok payload := DataUri.decode_encode ExportFile.mime_plain payload (by simp) blankAfter
    rw [List.nil_append] at decoded
    have starts : DataUri.scheme.isPrefixOf (DataUri.encode ExportFile.mime payload ++ after) = true := by
      rw [List.isPrefixOf_iff_prefix, DataUri.encode_eq, List.append_assoc]
      exact List.prefix_append _ _
    have read := Json.parse_render .indented keyed integral shallow
    rw [ExportFile.dataUri, String.toList_ofList]
    refine (Upload.parse_uri marked blankBefore starts decoded).trans ?_
    exact congrArg (Except.mapError Upload.Fault.json) read
  printed := by
    intro format member
    cases format with
    | json => exact Upload.parse_render keyed integral shallow .indented
    | compact => exact Upload.parse_render keyed integral shallow .compact
    | yaml => simp at member

end

namespace Normalization

/-- The document after a number of passes of normalization. -/
def afterPasses (passes : Nat) (document : Json) : Json :=
  (fun document => (normalize document).value)^[passes] document

theorem afterPasses_succ (passes : Nat) (document : Json) :
    afterPasses (passes + 1) document = (normalize (afterPasses passes document)).value :=
  Function.iterate_succ_apply' _ _ _

theorem fits_afterPasses {document : Json} {depth : Nat} (enough : 6 ≤ depth)
    (fits : Json.Parser.Fits depth document) (passes : Nat) :
    Json.Parser.Fits depth (afterPasses passes document) := by
  induction passes with
  | zero => exact fits
  | succ passes ih =>
    rw [afterPasses_succ]
    exact ⟨wellKeyed_normalize ih.keyed, depth_normalize_le enough ih.shallow⟩

theorem integral_afterPasses {document : Json} (integral : document.integral = true)
    (passes : Nat) : (afterPasses passes document).integral = true := by
  induction passes with
  | zero => exact integral
  | succ passes ih =>
    rw [afterPasses_succ]
    exact integral_normalize ih

/-- A document that was uploaded stays within the depth of the reader however often it is
normalized, and if its numbers are integers, every way out of the program leads back to it. -/
theorem lossless_afterPasses {bytes : List UInt8} {given : Json}
    (read : Upload.parse bytes = .ok given) (passes : Nat) :
    (afterPasses passes given).depth ≤ Json.Parser.maxDepth ∧
      (given.integral = true → ∀ seconds, Lossless (afterPasses passes given) seconds) := by
  have fits := fits_afterPasses (by decide) (Upload.fits_of_parse read) passes
  refine ⟨fits.shallow, fun integral seconds => ?_⟩
  exact lossless fits.keyed (integral_afterPasses integral passes) fits.shallow seconds

/-- A system with a name outside ASCII, behind a byte-order mark. -/
def uploadedText : List UInt8 :=
  Upload.byteOrderMark ++ Utf8.encode "\x7b\"systems\":[\x7b\"_id\":7,\"label\":\"Zürich\"\x7d]\x7d".toList

def uploadedDocument : Json :=
  .object [("systems", .array [.object [("_id", .ofNat 7), ("label", .string "Zürich")]])]

theorem lossless_uploadedText :
    Upload.parse uploadedText = .ok uploadedDocument ∧
      (afterPasses 2 uploadedDocument).depth ≤ Json.Parser.maxDepth ∧
        (uploadedDocument.integral = true ∧ Lossless (afterPasses 2 uploadedDocument) 0) := by
  have read : Upload.parse uploadedText = .ok uploadedDocument := by cbv
  have integral : uploadedDocument.integral = true := by rfl
  obtain ⟨shallow, exported⟩ := lossless_afterPasses read 2
  exact ⟨read, shallow, integral, exported integral 0⟩

end Normalization

end ScannerConfig
