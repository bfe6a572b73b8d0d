import ScannerConfig.Proofs.Export

namespace ScannerConfig

/-- No JSON value starts with a byte-order mark. -/
theorem Json.parse_marked (rest : List UInt8) :
    Json.parse (Upload.byteOrderMark ++ rest) = .error ⟨.expectedValue, 1, 1⟩ := by
  have stopped : Json.Parser.document (Upload.byteOrderMark ++ rest) =
      .error ⟨.expectedValue, 0xBB :: 0xBF :: rest⟩ := by
    unfold Json.Parser.document Json.Parser.maxDepth Json.Parser.value
    rfl
  have taken : (Upload.byteOrderMark ++ rest).take
      ((Upload.byteOrderMark ++ rest).length - (0xBB :: 0xBF :: rest).length) = [0xEF] := by
    have one : (Upload.byteOrderMark ++ rest).length - (0xBB :: 0xBF :: rest).length = 1 := by
      simp [Upload.byteOrderMark]
    rw [one]
    rfl
  rw [Json.parse, stopped, Except.mapError, Json.Stop.locate]
  simp only [taken]
  rfl

namespace Upload

/-- The data URI of a file, as the bytes that are uploaded. -/
def wrapped (bytes : List UInt8) : List UInt8 :=
  Utf8.encode (DataUri.encode ExportFile.mime bytes)

/-- Whether an upload is taken for a data URI. -/
def IsDataUri (bytes : List UInt8) : Prop :=
  schemeBytes.isPrefixOf ((withoutMark bytes).dropWhile Blank.isBlankByte) = true

instance (bytes : List UInt8) : Decidable (IsDataUri bytes) :=
  inferInstanceAs (Decidable (_ = true))

/-- A plain upload is the JSON behind its mark. -/
theorem parse_of_not_isDataUri {bytes : List UInt8} (plain : ¬IsDataUri bytes) :
    parse bytes = (Json.parse (withoutMark bytes)).mapError Fault.json := by
  rw [parse]
  exact if_neg plain

/-- A wrapped file is the JSON of all its bytes. -/
theorem parse_wrapped (bytes : List UInt8) :
    parse (wrapped bytes) = (Json.parse bytes).mapError Fault.json := by
  have decoded : DataUri.decode ([] ++ DataUri.encode ExportFile.mime bytes ++ []) = .ok bytes :=
    DataUri.decode_encode ExportFile.mime_plain bytes (by simp) (by simp)
  have starts : DataUri.scheme.isPrefixOf (DataUri.encode ExportFile.mime bytes) = true := by
    rw [List.isPrefixOf_iff_prefix, DataUri.encode_eq]
    exact List.prefix_append _ _
  rw [List.nil_append, List.append_nil] at decoded
  have unmarked : ([] : List UInt8) = [] ∨ [] = byteOrderMark := .inl rfl
  exact parse_uri unmarked (List.forall_mem_nil _) starts decoded

/-- A file that is accepted plain is the same document in a data URI, unless it starts with a
byte-order mark: wrapped with the mark it is refused at its first byte, wrapped without the mark
it is that document. -/
theorem parse_wrapped_of_plain {bytes : List UInt8} {document : Json} (plain : ¬IsDataUri bytes)
    (read : parse bytes = .ok document) :
    parse (wrapped (withoutMark bytes)) = .ok document ∧
      parse (wrapped bytes) =
        if byteOrderMark.isPrefixOf bytes then .error (.json ⟨.expectedValue, 1, 1⟩)
        else .ok document := by
  have bare : parse (wrapped (withoutMark bytes)) = .ok document := by
    rw [parse_wrapped, ← parse_of_not_isDataUri plain, read]
  refine ⟨bare, ?_⟩
  split
  · rename_i marked
    obtain ⟨rest, rfl⟩ := List.isPrefixOf_iff_prefix.mp marked
    rw [parse_wrapped, Json.parse_marked]
    rfl
  · rename_i unmarked
    rwa [withoutMark, if_neg unmarked] at bare

/-- An empty list of groups, behind a byte-order mark. -/
def markedGroups : List UInt8 :=
  byteOrderMark ++ Utf8.encode "\x7b\"groups\":[]\x7d".toList

theorem parse_markedGroups :
    ¬IsDataUri markedGroups ∧ parse markedGroups = .ok (.object [("groups", .array [])]) := by
  refine ⟨by decide, ?_⟩
  cbv

theorem parse_wrapped_markedGroups :
    (¬IsDataUri markedGroups ∧ parse markedGroups = .ok (.object [("groups", .array [])])) ∧
      parse (wrapped (withoutMark markedGroups)) = .ok (.object [("groups", .array [])]) ∧
        parse (wrapped markedGroups) = .error (.json ⟨.expectedValue, 1, 1⟩) := by
  obtain ⟨plain, read⟩ := parse_markedGroups
  have both := parse_wrapped_of_plain plain read
  exact ⟨⟨plain, read⟩, both.1, both.2⟩

/-- Wrapping can make an accepted file refused. -/
theorem parse_wrapped_differs :
    ¬∀ bytes document, ¬IsDataUri bytes → parse bytes = .ok document →
      parse (wrapped bytes) = .ok document := by
  intro same
  obtain ⟨plain, read⟩ := parse_markedGroups
  have refused : parse (wrapped markedGroups) = .error (.json ⟨.expectedValue, 1, 1⟩) := by
    rw [parse_wrapped, markedGroups, Json.parse_marked]
    rfl
  rw [same _ _ plain read] at refused
  cases refused

end Upload

end ScannerConfig
