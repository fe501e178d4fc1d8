import LakeAdmin.Proofs.Http.Pages
import LakeAdmin.Proofs.Json.Document
import LakeAdmin.Proofs.Service.Polling

/-!
What becomes of a response whose status does not mean success. Whoever reads it, as a page, as a
value or between two polls, fails with the same fault. The fault has the status of the response,
and as its body the document that the response holds, in whatever encoding, or else its text. Where
the text is that of UTF-8, the test for blank texts only spares the reading of what is no document;
but a codec may call bytes blank that hold one.
-/

namespace LakeAdmin

open Http Poller Schema Text

namespace Http.Response

variable {response : Response} {text : Wide}

/-- The text is that of the bytes in UTF-8. -/
def IsUtf8 (response : Response) : Prop :=
  response.text = .ok (.plain (String.ofList (Utf8.replace response.body)))

theorem utf8_of_codec (h : response.codec = none) : response.IsUtf8 := by
  unfold IsUtf8 Response.text
  rw [h]

/-- A blank text in UTF-8 holds no document. -/
theorem blank_document (spoken : response.text = .ok text) (utf8 : response.IsUtf8)
    (blank : text.allBlank = true) (value : Document) :
    Json.ofBytes response.levels response.body ≠ .ok value := by
  obtain rfl := Except.ok.inj (spoken.symm.trans utf8)
  have characters : ∀ c ∈ Utf8.replace response.body, Text.isBlank c = true := by
    simpa [Wide.allBlank, allBlank] using blank
  exact Json.blank_unread characters value

/-- The fault that a response stands for, if its status does not mean success. -/
structure StandsFor (response : Response) (text : Wide) (fault : Fault) : Prop where
  status : fault.status = response.status
  origin : (fault.method, fault.url) =
    (response.request.map (·.1), response.request.map (·.2))
  document : (response.IsUtf8 ∨ ¬text.allBlank = true) → ∀ charset value,
    Json.HeldIn response.levels charset response.body value → fault.body = value
  text : (∀ charset value, ¬Json.HeldIn response.levels charset response.body value) →
    fault.body = .str text

/-- A refusal stands for a fault, if its text can be read and its document is not nested too
deep. -/
theorem refused_stands (spoken : response.text = .ok text) (shallow : response.IsShallow) :
    ∃ fault, response.refused = .fault fault ∧ response.StandsFor text fault := by
  by_cases blank : text.allBlank = true
  · refine ⟨_, refused_ok (refusal_blank spoken blank), rfl, rfl, ?_, fun _ => rfl⟩
    rintro (utf8 | full) charset value held
    · exact absurd (Json.ofBytes_iff.mpr ⟨charset, held⟩)
        (blank_document spoken utf8 blank value)
    · exact absurd blank full
  · have body := refusal_full spoken blank
    cases read : Json.ofBytes response.levels response.body with
    | ok found =>
      rw [read] at body
      refine ⟨_, refused_ok body, rfl, rfl, fun _ charset value held => ?_, fun none => ?_⟩
      · exact Except.ok.inj (read.symm.trans (Json.ofBytes_iff.mpr ⟨charset, held⟩))
      · obtain ⟨charset, held⟩ := Json.ofBytes_iff.mp read
        exact absurd held (none charset found)
    | error fault =>
      cases fault with
      | unreadable e =>
        rw [read] at body
        refine ⟨_, refused_ok body, rfl, rfl, fun _ charset value held => ?_, fun _ => rfl⟩
        cases read.symm.trans (Json.ofBytes_iff.mpr ⟨charset, held⟩)
      | tooDeep array => exact absurd read (shallow array)

end Http.Response

namespace Poller

/-- The statuses that a poll takes for no fault. -/
def Protocol.success : Protocol → List Int
  | .status => [200]
  | .location => [200, 201, 202, 204]

theorem verdict_refused {protocol : Protocol} {response : Response}
    (refused : response.status ∉ protocol.success) (url : String) :
    protocol.verdict url response = .failed response.refused := by
  cases protocol with
  | status =>
    have other : response.status ∉ [200] := refused
    unfold Protocol.verdict
    dsimp only
    rw [Response.value_refused other]
  | location =>
    simp only [Protocol.success, List.mem_cons, List.not_mem_nil, or_false, not_or] at refused
    unfold Protocol.verdict
    dsimp only
    rw [if_neg refused.2.2.1, if_neg (by simp [refused])]

/-- A poll that is answered by a refusal ends the polling with its fault. -/
theorem poll_refused {client : Client} {protocol : Protocol} {url : String}
    {last response : Response} {world after : World}
    (refused : response.status ∉ protocol.success) (left attempt : Nat)
    (asked : (ask client url last).run world = (.ok response, after)) :
    ∃ settled : World, settled.deeds = after.deeds ∧ settled.replies = after.replies ∧
      (protocol.poll client url (left + 1) attempt last).run world =
        (.error response.refused, settled) := by
  obtain ⟨settled, deeds, replies, run⟩ := poll_ok protocol left attempt asked
  refine ⟨settled, deeds, replies, ?_⟩
  rw [run, verdict_refused refused]

end Poller

/-- A response whose status does not mean success stands for one fault, and this is what the
reading of a page, of a value and of a document fails with, and a poll that it answers. Its body
is the document that the response holds, in any encoding, or else its text; a text of blanks in
UTF-8 holds none. -/
theorem refused_fault {response : Response} {success : List Int} {text : Wide}
    (refused : response.status ∉ success) (spoken : response.text = .ok text)
    (shallow : response.IsShallow) :
    ∃ fault, response.StandsFor text fault ∧
      (∀ {κ : Type} (item : Check κ Wide),
        response.page item success = .error (.fault fault)) ∧
      (∀ {α : Type} (kind : String) (check : Check α Wide),
        response.value kind check success = .error (.fault fault)) ∧
      response.documentIfAny success = .error (.fault fault) ∧
      (∀ protocol : Protocol, protocol.success = success →
        ∀ (client : Client) (url : String) (left attempt : Nat) (last : Response)
          (world after : World), (ask client url last).run world = (.ok response, after) →
          ∃ settled : World, settled.deeds = after.deeds ∧
            (protocol.poll client url (left + 1) attempt last).run world =
              (.error (.fault fault), settled)) ∧
      (response.IsUtf8 → text.allBlank = true → ∀ charset value,
        ¬Json.HeldIn response.levels charset response.body value) := by
  obtain ⟨fault, same, stands⟩ := Response.refused_stands spoken shallow
  refine ⟨fault, stands, fun item => ?_, fun kind check => ?_, ?_, ?_, ?_⟩
  · rw [Response.page_refused refused, same]
  · rw [Response.value_refused refused, same]
  · rw [Response.documentIfAny_refused refused, same]
  · rintro protocol rfl client url left attempt last world after asked
    obtain ⟨settled, deeds, -, run⟩ := poll_refused refused left attempt asked
    exact ⟨settled, deeds, same ▸ run⟩
  · intro utf8 blank charset value held
    exact Response.blank_document spoken utf8 blank value (Json.ofBytes_iff.mpr ⟨charset, held⟩)

/-- A refusal with a document behind a byte order mark, one without a document, and one whose
text is read by another codec. -/
theorem refused_fault_marked : ∃ held plain latin : Response,
    held = ⟨404, [], [0xEF, 0xBB, 0xBF, 0x20, 0x4E, 0x61, 0x4E], none, none, 100⟩ ∧
      plain = ⟨404, [], [0x20, 0xFF], none, none, 100⟩ ∧
      latin = ⟨404, [], [0x20, 0xE9], none, some Codec.latin1, 100⟩ ∧
      (∃ fault, held.page Resource.check [200] = .error (.fault fault) ∧ fault.status = 404 ∧
        fault.body = .float .nan) ∧
      (∃ fault, plain.page Resource.check [200] = .error (.fault fault) ∧ fault.status = 404 ∧
        fault.body = .str (.plain (String.ofList [' ', Char.ofNat 0xFFFD]))) ∧
      ∃ fault, latin.page Resource.check [200] = .error (.fault fault) ∧ fault.status = 404 ∧
        fault.body = .str (.plain (String.ofList [' ', Char.ofNat 0xE9])) := by
  have refused (bytes : List UInt8) (codec : Option Codec) :
      (⟨404, [], bytes, none, codec, 100⟩ : Response).status ∉ [(200 : Int)] := by
    show (404 : Int) ∉ [200]
    decide
  -- one that holds no document keeps its text
  have kept (bytes : List UInt8) (codec : Option Codec) (text : Wide)
      (spoken : (⟨404, [], bytes, none, codec, 100⟩ : Response).text = .ok text)
      (unread : ∃ e, Json.ofBytes 100 bytes = .error (.unreadable e)) :
      ∃ fault, (⟨404, [], bytes, none, codec, 100⟩ : Response).page Resource.check [200] =
        .error (.fault fault) ∧ fault.status = 404 ∧ fault.body = .str text := by
    obtain ⟨e, failed⟩ := unread
    obtain ⟨fault, stands, page, -⟩ := refused_fault (refused bytes codec) spoken
      fun array deep => by cases failed.symm.trans deep
    refine ⟨fault, page Resource.check, stands.status, stands.text fun charset value held => ?_⟩
    cases failed.symm.trans (Json.ofBytes_iff.mpr ⟨charset, held⟩)
  refine ⟨_, _, _, rfl, rfl, rfl, ?_, ?_, ?_⟩
  · have held : Json.HeldIn 100 .utf8 [0xEF, 0xBB, 0xBF, 0x20, 0x4E, 0x61, 0x4E] (.float .nan) :=
      ⟨_, [0x20, 0x4E, 0x61, 0x4E], [.char ' ', .char 'N', .char 'a', .char 'N'], .inr rfl, rfl,
        by decide +kernel, rfl⟩
    have utf8 : Response.IsUtf8
        ⟨404, [], [0xEF, 0xBB, 0xBF, 0x20, 0x4E, 0x61, 0x4E], none, none, 100⟩ :=
      Response.utf8_of_codec rfl
    obtain ⟨fault, stands, page, -⟩ := refused_fault
      (refused [0xEF, 0xBB, 0xBF, 0x20, 0x4E, 0x61, 0x4E] none) utf8
      fun array deep => by cases deep.symm.trans (Json.ofBytes_iff.mpr ⟨_, held⟩)
    exact ⟨fault, page Resource.check, stands.status, stands.document (.inl utf8) _ _ held⟩
  · exact kept _ _ _ (by decide +kernel) ⟨_, rfl⟩
  · exact kept _ _ _ (by decide +kernel) ⟨_, rfl⟩

/-- Three refusals whose bodies are no documents in UTF-8. The number one in UTF-16 is not taken
for a text, the text of a byte beyond ASCII is that of its codec, and bytes of the number zero that
their codec calls blank are taken for a text. -/
theorem fault_charsets :
    (∃ response : Response,
      response = ⟨404, [], [0xFF, 0xFE, 0x31, 0x00], none, none, 100⟩ ∧
        (∀ value, ¬Json.HeldIn response.levels .utf8 response.body value) ∧
        ∃ fault, response.page Resource.check [200] = .error (.fault fault) ∧
          fault.body = .int 1) ∧
      (∃ response : Response, response = ⟨404, [], [0xE9], none, some Codec.latin1, 100⟩ ∧
        ∃ fault, response.page Resource.check [200] = .error (.fault fault) ∧
          ¬fault.body = .str (.plain (String.ofList (Utf8.replace response.body)))) ∧
      ∃ response : Response, response = ⟨404, [], [0x30, 0x00], none, some Codec.utf16, 100⟩ ∧
        Json.ofBytes response.levels response.body = .ok (.int 0) ∧
        ∃ fault, response.page Resource.check [200] = .error (.fault fault) ∧
          fault.body = .str (.plain (String.ofList [Char.ofNat 0x3000])) := by
  have refused (bytes : List UInt8) (codec : Option Codec) :
      (⟨404, [], bytes, none, codec, 100⟩ : Response).status ∉ [(200 : Int)] := by
    show (404 : Int) ∉ [200]
    decide
  have page {response : Response} {body : Document} (outside : response.status ∉ [(200 : Int)])
      (h : response.refusal = .ok body) :
      ∃ fault, response.page Resource.check [200] = .error (.fault fault) ∧ fault.body = body := by
    rw [Response.page_refused outside, Response.refused_ok h]
    exact ⟨_, rfl, rfl⟩
  refine ⟨⟨_, rfl, ?_, page (refused _ _) ?_⟩, ⟨_, rfl, ?_⟩, ⟨_, rfl, ?_, page (refused _ _) ?_⟩⟩
  · rintro value ⟨front, rest, l, rfl | rfl, whole, decoded, -⟩
    · rw [List.nil_append] at whole
      rw [← whole] at decoded
      cases decoded
    · cases whole
  · have held : Json.HeldIn 100 (.utf16 false) [0xFF, 0xFE, 0x31, 0x00] (.int 1) :=
      ⟨_, [0x31, 0x00], [.char '1'], .inr rfl, rfl, by decide +kernel, rfl⟩
    rw [Response.refusal_full (Response.utf8_of_codec rfl) (by decide +kernel),
      Json.ofBytes_iff.mpr ⟨_, held⟩]
  · have text : (⟨404, [], [0xE9], none, some Codec.latin1, 100⟩ : Response).text =
        .ok (.plain (String.ofList [Char.ofNat 0xE9])) := by decide +kernel
    obtain ⟨fault, failed, body⟩ := page (refused [0xE9] (some Codec.latin1))
      (by rw [Response.refusal_full text (by decide +kernel)]; rfl)
    refine ⟨fault, failed, ?_⟩
    rw [body, Json.str.injEq]
    decide +kernel
  · exact Json.ofBytes_iff.mpr ⟨.utf16 false, [], [0x30, 0x00], [.char '0'], .inl rfl, rfl,
      by decide +kernel, rfl⟩
  · exact Response.refusal_blank (by decide +kernel) (by decide +kernel)

end LakeAdmin
