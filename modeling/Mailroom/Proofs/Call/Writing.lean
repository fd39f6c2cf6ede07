import Mailroom.Call.Wire

/-!
# What is written on the wire

A request is written exactly if its headers can be sent and its file, if it has one, has a kind that
is one. The headers are looked at first.

Where redirections are followed, more messages leave than are written. However long the way is, each
of them has the method and the body of the message that it started with, or only reads.
-/

namespace Mailroom.Wire

/-- The only complaint about a body is one about the kind of its file. -/
theorem illegalBody?_eq_some {body : Option Body} {e : ApiError} (h : illegalBody? body = some e) :
    ∃ mime : String, e = .invalidRequest s!"invalid MIME type '{mime}': builder error" := by
  unfold illegalBody? at h
  split at h
  · split at h
    · split at h
      · cases h
      · exact ⟨_, (Option.some.inj h).symm⟩
    · cases h
  · cases h

variable {config : Config} {request : Request}

/-- The message of a request whose headers and body can be sent. -/
theorem encode_eq_ok_iff {m : Message} :
    encode config request = .ok m ↔ Header.firstIllegal? request.headers = none ∧
      illegalBody? request.body = none ∧
      m = ⟨request.method, { request.url with fragment := none }.text,
        messageHeaders config request, request.body.map bodyText⟩ := by
  unfold encode
  cases Header.firstIllegal? request.headers <;> cases illegalBody? request.body <;>
    simp [eq_comm]

/-- A request whose headers and body can be sent is written. -/
theorem exists_encode_eq_ok (config : Config)
    (hheaders : Header.firstIllegal? request.headers = none)
    (hbody : illegalBody? request.body = none) : ∃ m, encode config request = .ok m :=
  ⟨_, encode_eq_ok_iff.mpr ⟨hheaders, hbody, rfl⟩⟩

/-- The complaint about a request whose headers or body cannot be sent. -/
theorem encode_eq_error_iff {e : ApiError} :
    encode config request = .error e ↔
      (∃ cause, Header.firstIllegal? request.headers = some cause ∧ e = .config cause) ∨
      Header.firstIllegal? request.headers = none ∧ illegalBody? request.body = some e := by
  unfold encode
  cases Header.firstIllegal? request.headers <;> cases illegalBody? request.body <;>
    simp [eq_comm]

/-- What is sent has the method of the request and a body whose kind of file is legal. -/
theorem encode_eq_ok {m : Message} (h : encode config request = .ok m) :
    m.method = request.method ∧ illegalBody? request.body = none := by
  obtain ⟨-, hbody, rfl⟩ := encode_eq_ok_iff.mp h
  exact ⟨rfl, hbody⟩

/-- A request that cannot be written has wrong headers or breaks a contract. -/
theorem encode_eq_error {e : ApiError} (h : encode config request = .error e) :
    e.kind = .config ∨ e.kind = .contract := by
  rcases encode_eq_error_iff.mp h with ⟨cause, -, rfl⟩ | ⟨-, hbody⟩
  · exact Or.inl rfl
  · obtain ⟨mime, rfl⟩ := illegalBody?_eq_some hbody
    exact Or.inr rfl

/-- An answer without any meaning is a closed connection. -/
theorem decode_eq_error {answer : Answer} {e : ApiError} (h : decode answer = .error e) :
    e = .network := by
  unfold decode at h
  split at h
  · cases h
  · exact (Except.error.inj h).symm

/-! ## Redirections -/

/-- An answer before which a redirection was followed. -/
def Answer.IsRedirected (answer : Answer) : Prop :=
  ∃ status location next, answer = .redirected status location next

namespace Redirection

variable {r : Redirection} {m n : Message} {answer : Answer} {script : List Answer}
  {sent : List Message}

/-- Along an exchange the message is sent again, or the transport only reads. -/
theorem again_or_get_of_mem_hops (h : n ∈ r.hops m answer) :
    (n.method = m.method ∧ n.body = m.body) ∨ n.method = .get := by
  induction answer generalizing m with
  | reply status body =>
    obtain rfl := List.mem_singleton.mp h
    exact Or.inl ⟨rfl, rfl⟩
  | dropped =>
    obtain rfl := List.mem_singleton.mp h
    exact Or.inl ⟨rfl, rfl⟩
  | redirected status location next ih =>
    rcases List.mem_cons.mp h with rfl | h
    · exact Or.inl ⟨rfl, rfl⟩
    · rcases ih h with ⟨hmethod, hbody⟩ | hget
      · rcases r.again_or_get m status location with ⟨hagain, hbody'⟩ | hget
        · exact Or.inl ⟨hmethod.trans hagain, hbody.trans hbody'⟩
        · exact Or.inr (hmethod.trans hget)
      · exact Or.inr hget

theorem hops_of_not_isRedirected (h : ¬answer.IsRedirected) : r.hops m answer = [m] := by
  cases answer with
  | redirected status location next => exact absurd ⟨status, location, next, rfl⟩ h
  | reply status body => rfl
  | dropped => rfl

theorem answerAt_tail (script : List Answer) (k : Nat) :
    answerAt script.tail k = answerAt script (k + 1) := by
  rw [answerAt, answerAt, List.drop_tail]

/-- What leaves belongs to the exchange of one of the messages that are sent. -/
theorem exists_of_mem_traffic (h : n ∈ r.traffic script sent) :
    ∃ before m after, sent = before ++ m :: after ∧
      n ∈ r.hops m (answerAt script before.length) := by
  induction sent generalizing script with
  | nil => cases h
  | cons m rest ih =>
    rcases List.mem_append.mp h with hfirst | hlater
    · exact ⟨[], m, rest, rfl, hfirst⟩
    · obtain ⟨before, m', after, rfl, hhops⟩ := ih hlater
      rw [answerAt_tail] at hhops
      exact ⟨m :: before, m', after, rfl, hhops⟩

/-- Without redirections just the messages that are sent leave. -/
theorem traffic_of_not_isRedirected (h : ∀ answer ∈ script, ¬answer.IsRedirected) :
    r.traffic script sent = sent := by
  induction sent generalizing script with
  | nil => rfl
  | cons m rest ih =>
    have hfirst : ¬(answerAt script 0).IsRedirected := by
      cases script with
      | nil => rintro ⟨status, location, next, hnext⟩; cases hnext
      | cons answer others => exact h answer List.mem_cons_self
    rw [traffic, hops_of_not_isRedirected hfirst,
      ih fun answer hanswer => h answer (List.mem_of_mem_tail hanswer)]
    rfl

/-- What leaves and does not only read repeats a message that is sent. -/
theorem exists_repeated_of_mem_traffic (h : n ∈ r.traffic script sent) (hn : n.method ≠ .get) :
    ∃ before m after, sent = before ++ m :: after ∧ m.method = n.method ∧ m.body = n.body := by
  obtain ⟨before, m, after, hsent, hhops⟩ := exists_of_mem_traffic h
  obtain ⟨hmethod, hbody⟩ := (again_or_get_of_mem_hops hhops).resolve_right hn
  exact ⟨before, m, after, hsent, hmethod.symm, hbody.symm⟩

/-- Where all that is sent only reads, so does all that leaves. -/
theorem get_of_mem_traffic (hsent : ∀ m ∈ sent, m.method = .get) (h : n ∈ r.traffic script sent) :
    n.method = .get := by
  refine Classical.byContradiction fun hn => ?_
  obtain ⟨before, m, after, rfl, hmethod, -⟩ := exists_repeated_of_mem_traffic h hn
  exact hn (hmethod.symm.trans (hsent m (List.mem_append_right _ List.mem_cons_self)))

end Redirection

end Mailroom.Wire
