import WalletWatch.Proofs.Requests
/-!
# The id of a session is one field

Whatever text the id of a session is, the requests that are made in the name of the session
(`Client.InSession`) carry it as the one field of a form and nothing besides: no part of the id can
end the field or start another one (`session_id_is_one_field`). The body of such a request is settled
by the id alone (`Client.InSession.body_eq`), and settles it.
-/

namespace WalletWatch.Http.Client

/-- A request that a client makes in the name of its session: a poll of a feed that belongs to the
session, or the post of a form. -/
inductive InSession (c : Client) (r : Request) : Prop
  | poll {feed : Feed} (own : feed.sessionScoped = true) (made : c.pollRequest feed = .ok r)
  | submit {s : Submission} (made : c.submitRequest s = .ok r)

variable {base id : String} {r : Request}

theorem InSession.form_eq {session : Option String} (h : (ofBase base session).InSession r) :
    r.form = (ofBase base session).sessionForm := by
  cases h with
  | poll own made =>
    obtain ⟨url, rfl⟩ :=
      exists_of_map_eq_ok ((pollRequest_of_scoped base session own).symm.trans made)
    rfl
  | submit made =>
    obtain ⟨url, rfl⟩ := exists_of_map_eq_ok ((submitRequest_eq base session _).symm.trans made)
    rfl

theorem InSession.body_eq (named : id ≠ "") (h : (ofBase base (some id)).InSession r) :
    r.body = FormBody.encode [("session_id", id)] := by
  rw [Request.body, h.form_eq, sessionForm_of_named base named, Option.getD_some]

theorem InSession.decode?_body (named : id ≠ "") (h : (ofBase base (some id)).InSession r) :
    FormBody.decode? r.body = some [("session_id", id)] := by
  rw [h.body_eq named]
  exact FormBody.decode?_encode (List.cons_ne_nil _ _)

/-- **The id of a session is one field of a form, whatever text it is.** The body of a request in the
name of a session consists of letters, digits and the marks of a form body; it has one sign `=` and no
`&` in it, and reads as the one field with the id. So the requests of different sessions have
different bodies. -/
theorem session_id_is_one_field (base id : String) (named : id ≠ "") (r : Request)
    (sent : (ofBase base (some id)).InSession r) :
    (∀ c ∈ r.body.toList, c.isAlphanum = true ∨ c ∈ ['*', '-', '.', '_', '+', '%', '=']) ∧
      r.body.toList.count '=' = 1 ∧ '&' ∉ r.body.toList ∧
      FormBody.decode? r.body = some [("session_id", id)] ∧
      ∀ base' other r', other ≠ "" → (ofBase base' (some other)).InSession r' → other ≠ id →
        r'.body ≠ r.body := by
  have reads := sent.decode?_body named
  have written : r.body.toList = FormBody.encodeField ("session_id", id) := by
    rw [sent.body_eq named, FormBody.toList_encode_singleton]
  have marks : ∀ c ∈ r.body.toList, FormBody.isSafe c = true ∨ c = '=' := by
    rw [written]
    exact fun c => FormBody.mem_encodeField
  refine ⟨?_, ?_, ?_, reads, ?_⟩
  · intro c member
    rcases marks c member with safe | rfl
    · rw [FormBody.isSafe, Bool.or_eq_true, List.contains_iff_mem] at safe
      exact safe.imp_right fun mark => List.mem_append_left ['='] mark
    · exact .inr (by decide)
  · rw [written]
    exact FormBody.count_encodeField _
  · intro cut
    rcases marks '&' cut with safe | sign
    · exact absurd safe (by decide)
    · exact absurd sign (by decide)
  · intro base' other r' named' sent' differ same
    have both := (sent'.decode?_body named').symm.trans (same ▸ reads)
    simp only [Option.some.injEq, List.cons.injEq, Prod.mk.injEq, and_true, true_and] at both
    exact differ both

/-- An id that has all the marks of a form body in it, sent with a form. -/
theorem session_id_is_one_field_with_marks :
    let id := "a b&c=é%2+"
    let request : Request := ⟨.post, ⟨.http, .dotted 2130706433, some 4300, "/", none, none⟩,
      some "session_id=a+b%26c%3D%C3%A9%252%2B"⟩
    id ≠ "" ∧ (ofBase "http://127.0.0.1:4300" (some id)).InSession request ∧
      request.body.toList.count '=' = 1 ∧ '&' ∉ request.body.toList ∧
      FormBody.decode? request.body = some [("session_id", id)] := by
  intro id request
  have named : id ≠ "" := by decide
  have made : (ofBase "http://127.0.0.1:4300" (some id)).submitRequest ⟨"refreshForm", "/"⟩ =
      .ok request := by cbv
  have sent : (ofBase "http://127.0.0.1:4300" (some id)).InSession request := .submit made
  obtain ⟨-, sign, cut, reads, -⟩ := session_id_is_one_field _ id named request sent
  exact ⟨named, sent, sign, cut, reads⟩

end WalletWatch.Http.Client
