import Mailroom.Proofs.Call.Parameters
import Mailroom.Proofs.Call.PathValues
import Mailroom.Proofs.Call.Writing
import Mailroom.Proofs.Json.Compact
import Mailroom.Proofs.Text.Decimal

/-!
# What a message says beyond its root

A message has segments of its path behind those of the root, pairs of its query behind those of the
root, and a document for a body. Decoding them gives back the texts that the template was filled
with, the parameters, and the value that the body was written from (`says_of_filled`).
-/

namespace Mailroom

namespace Text

/-- A written number is read back. -/
theorem readWord?_ofNat (n : UInt64) : readWord? (ofNat n.toNat) = some n := by
  rw [readWord?, readUnsigned?_ofNat (show n.toNat < bitBound 64 from n.toNat_lt),
    Option.map_some]
  exact congrArg some (UInt64.ofNat_toNat)

/-- A written number survives as a segment. -/
theorem survives_ofNat (n : Nat) : Url.Survives (ofNat n).toList := by
  obtain ⟨digits, hdigits, hwritten⟩ := exists_writes n
  have hdigit : ∀ d : Fin 10, digitChar d.val ≠ '.' ∧ digitChar d.val ≠ '\t' ∧
      digitChar d.val ≠ '\n' ∧ digitChar d.val ≠ '\r' := by
    decide
  have hfree : ∀ c ∈ (ofNat n).toList, c ≠ '.' ∧ c ≠ '\t' ∧ c ≠ '\n' ∧ c ≠ '\r' := by
    rw [toList_ofNat, hwritten]
    exact List.forall_mem_map.mpr fun d _ => hdigit d
  refine ⟨?_, fun hdot => ?_, fun hdots => ?_, fun c hc => (hfree c hc).2⟩
  · rw [toList_ofNat, hwritten]
    simpa using hdigits.ne_nil
  · exact (hfree '.' (by rw [hdot]; simp)).1 rfl
  · exact (hfree '.' (by rw [hdots]; simp)).1 rfl

end Text

/-- The segments of a root that stand in front of those behind it. -/
def Url.front (root : Url) : List (List Char) :=
  below (closed root.segments)

/-- A root that requests go to over the web. -/
def Url.OnWeb (root : Url) : Prop :=
  root.scheme = "http" ∨ root.scheme = "https"

namespace Wire

/-- The document that a body holds. -/
inductive Holds : Option String → Option Json → Prop where
  | nothing : Holds none none
  | document {text : String} {v : Json} (read : Json.parse text = .ok v) :
      Holds (some text) (some v)

/-- What a message of a request says beyond the root: the texts of its path, the pairs of its query
and the document of its body. -/
structure Says (root : Url) (request : Request) (m : Message) (path : List String)
    (query : List (String × String)) (document : Option Json) : Prop where
  path : request.url.segments.map Url.decode =
    root.front.map Url.decode ++ path.map fun text => Text.utf8 text.toList
  query : Url.Form.decodePairs (request.url.query.getD "") =
    Url.Form.decodePairs (root.query.getD "") ++ query
  document : Holds m.body document

end Wire

namespace Request

section Filled

variable {root : Url} {op : Operation} {merged : CallOptions} {texts : List String}

/-- Decoding the path of a filled template gives the texts behind the root, where they survive. -/
theorem decode_segments_filled {address : String} (hparse : Url.parse address = .ok root)
    (hweb : root.OnWeb) (hop : op ∈ Catalog.operations)
    (htexts : segments op.name merged.path op.template = .ok texts)
    (hsurvives : ∀ text ∈ texts, Url.Survives text.toList) :
    (filled root op merged texts).url.segments.map Url.decode =
      root.front.map Url.decode ++ texts.map fun text => Text.utf8 text.toList := by
  have hrules : (Url.rulesOf root.scheme).special = true ∧
      (Url.rulesOf root.scheme).isFile = false := by
    rcases hweb with h | h <;> rw [h] <;> exact ⟨rfl, rfl⟩
  have hpath := path_filled (Url.rootedOnWeb_of_parse hparse hrules.1) hrules.2 op merged texts
  have hbase : Url.Proper root.segments := Url.proper_segmentsOf _
  rw [Url.segments, hpath, Url.segmentsOf_joined (hbase.closed.foldl_pushed _),
    foldl_pushed_eq_append (Catalog.anchored_template op hop) op.template_ne_nil
      (segments_eq_ok_iff.mp htexts) (fun text htext => (hsurvives text htext).not_escapes)
      hbase.closed,
    List.map_append, List.map_map]
  congr 1
  exact List.map_congr_left fun text htext => (hsurvives text htext).decode_written

/-- What the message of a filled template says is what the template was filled with, the parameters
and the body. -/
theorem says_of_filled {address : String} (hparse : Url.parse address = .ok root)
    (hweb : root.OnWeb) (hop : op ∈ Catalog.operations)
    (htexts : segments op.name merged.path op.template = .ok texts)
    (hsurvives : ∀ text ∈ texts, Url.Survives text.toList) {document : Option Json}
    (hbody : merged.body = document.map .json) (hexact : ∀ v ∈ document, Json.Exact 127 v)
    {config : Config} {m : Wire.Message}
    (hwritten : Wire.encode config (filled root op merged texts) = .ok m) :
    Wire.Says root (filled root op merged texts) m texts (queryPairs merged.query) document where
  path := decode_segments_filled hparse hweb hop htexts hsurvives
  query := by rw [filled_query, decodePairs_extendQuery]
  document := by
    obtain ⟨-, -, rfl⟩ := Wire.encode_eq_ok_iff.mp hwritten
    change Wire.Holds (merged.body.map Wire.bodyText) document
    rw [hbody]
    cases document with
    | none => exact .nothing
    | some v => exact .document (Json.parse_compact (hexact v rfl))

end Filled

end Request

end Mailroom
