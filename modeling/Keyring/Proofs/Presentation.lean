import Keyring.Proofs.Json.Compact
import Keyring.Report

/-!
# Machine-readable output is one line that reads back

With machine-readable output every report and every failure is printed as one line, whatever the other
settings.  The line holds no line break and no colour, because all texts in it are escaped, and it reads back
as the data of the report or as what there is to say on the failure:
`Presentation.json_output_readsBack`.
-/

namespace Keyring

/-- Whether a text stands on one line and holds no escape sequence of a terminal. -/
structure PlainLine (s : String) : Prop where
  feed : '\n' ∉ s.toList
  carriage : '\r' ∉ s.toList
  escape : '\x1b' ∉ s.toList

theorem plainLine_of_unbroken
    {cs : List Char}
    (h : Json.Unbroken cs) :
    PlainLine (String.ofList cs) := by
  have habsent : ∀ c : Char, c.toNat < 0x20 → c ∉ (String.ofList cs).toList := by
    intro c hc hmem
    rw [String.toList_ofList] at hmem
    exact Nat.not_lt.2 (h c hmem) hc
  exact ⟨habsent _ (by decide), habsent _ (by decide), habsent _ (by decide)⟩

/-- The line of an exact value is plain and reads back. -/
theorem Json.plainLine_and_parse_compact
    {v : Json}
    (hexact : v.Exact)
    (hdepth : v.depth ≤ Json.greatestDepth) :
    PlainLine v.compact ∧ Json.parse v.compact = .ok v :=
  ⟨plainLine_of_unbroken (Json.unbroken_compactText hexact), Json.parse_compact hexact hdepth⟩

namespace Failure

variable {f : Failure}

/-- What is said on a failure is exact when its details are. -/
theorem exact_json (h : ∀ d ∈ f.details, d.Exact) :
    f.json.Exact := by
  cases hdetails : f.details with
  | none => simp [json, members, hdetails, Json.Exact, Json.ExactMembers]
  | some d => simp [json, members, hdetails, Json.Exact, Json.ExactMembers, h d hdetails]

theorem depth_json_le
    {levels : Nat}
    (h : ∀ d ∈ f.details, d.depth ≤ levels) :
    f.json.depth ≤ levels + 2 := by
  cases hdetails : f.details with
  | none => simp [json, members, hdetails, Json.depth, Json.depthMembers]
  | some d => simp [json, members, hdetails, Json.depth, Json.depthMembers, h d hdetails]

end Failure

namespace Presentation

/-- Machine-readable output is one plain line for every report and every failure whose data hold no
fractions and are nested at most 100 deep.  It reads back as the data of the report, and as the code, the
message and the details, if there are any, of the failure. -/
theorem json_output_readsBack
    {p : Presentation}
    (hjson : p.json = true) :
    (∀ r : Report, r.data.Exact → r.data.depth ≤ 100 →
      ∃ line, p.ofReport? r = some line ∧ PlainLine line ∧
        Json.parse line = .ok (.object [("ok", .bool true), ("data", r.data)])) ∧
    (∀ f : Failure, (∀ d ∈ f.details, d.Exact ∧ d.depth ≤ 100) →
      PlainLine (p.ofFailure f) ∧
        Json.parse (p.ofFailure f) =
          .ok (.object [("ok", .bool false),
            ("error", .object ([("code", .string f.kind.code), ("message", .string f.message)] ++
              (f.details.map fun d => ("details", d)).toList))])) := by
  have hlimit : Json.greatestDepth = 127 := rfl
  constructor
  · intro r hexact hdepth
    refine ⟨_, by rw [ofReport?, if_pos hjson], Json.plainLine_and_parse_compact ?_ ?_⟩
    · simp [Json.Exact, Json.ExactMembers, hexact]
    · simp only [Json.depth, Json.depthMembers, hlimit]
      omega
  · intro f hdetails
    have hdepth := Failure.depth_json_le fun d hd => (hdetails d hd).2
    rw [ofFailure, if_pos hjson]
    exact Json.plainLine_and_parse_compact (Failure.exact_json fun d hd => (hdetails d hd).1) (by omega)

/-- A notice with a note of two lines, one of them in colour. -/
def noticeOfLines : Report :=
  .notice (.object [("note", .string "a\n\x1b[1m\"b\"\x1b[0m"),
    ("sizes", .array [.int (-3), .nat 18446744073709551615, .null, .object []])]) "a\r\nb"

/-- A failure that quotes what it has found in a file. -/
def failureOfLines : Failure :=
  ⟨.corruptStore, "unexpected \"\\\r\n\"", some (.object [("path", .string "a\tb")])⟩

/-- Machine-readable output of everything. -/
def machineReadable : Presentation :=
  ⟨true, true, false, true⟩

example :
    machineReadable.ofFailure failureOfLines =
      "\x7b\"ok\":false,\"error\":\x7b\"code\":\"CORRUPT_STORE\"," ++
        "\"message\":\"unexpected \\\"\\\\\\r\\n\\\"\",\"details\":\x7b\"path\":\"a\\tb\"\x7d\x7d\x7d" := by
  decide +kernel

theorem json_output_readsBack_lines :
    (∃ line, machineReadable.ofReport? noticeOfLines = some line ∧ PlainLine line ∧
      Json.parse line = .ok (.object [("ok", .bool true), ("data", noticeOfLines.data)])) ∧
    PlainLine (machineReadable.ofFailure failureOfLines) ∧
    Json.parse (machineReadable.ofFailure failureOfLines) =
      .ok (.object [("ok", .bool false), ("error", .object [("code", .string "CORRUPT_STORE"),
        ("message", .string "unexpected \"\\\r\n\""),
        ("details", .object [("path", .string "a\tb")])])]) := by
  obtain ⟨hreport, hfailure⟩ := json_output_readsBack (p := machineReadable) rfl
  refine ⟨hreport noticeOfLines ?_ (by decide +kernel), hfailure failureOfLines ?_⟩
  · simp [noticeOfLines, Report.notice, Json.int, Json.nat, Json.Exact, Json.ExactMembers,
      Json.ExactItems, Number.Exact]
  · rintro d ⟨⟩
    exact ⟨by simp [Json.Exact, Json.ExactMembers], by decide +kernel⟩

end Presentation
end Keyring
