import PageListeners.Proofs.Agreement
import PageListeners.Proofs.Resolutions

/-!
# A page that clients share

Clients send their requests to one page, and a lock lets in one after the other. What a request
reads of the page no other request changes. So each gets the answer that it would get alone, and
only the parameters of the page tell which requests came before.
-/

namespace PageListeners

structure Request where
  settings : Settings
  query : String

structure Served where
  client : Nat
  request : Request
  answer : Except Error Reply

namespace Served

def askedBy (client : Nat) (served : List Served) : List Request :=
  (served.filter (·.client = client)).map (·.request)

/-- The parameters of the last reply that was no error; those of the start if there was none. -/
def lastParameters (start : Parameters) (served : List Served) : Parameters :=
  ((served.filterMap (·.answer.toOption)).getLast?.map (·.parameters)).getD start

theorem askedBy_append (client : Nat) (served : List Served) (x : Served) :
    askedBy client (served ++ [x]) =
      askedBy client served ++ if x.client = client then [x.request] else [] := by
  rw [askedBy, askedBy, List.filter_append, List.map_append]
  by_cases hx : x.client = client
  · simp [hx]
  · simp [hx]

theorem lastParameters_append (start : Parameters) (served : List Served) (x : Served) :
    lastParameters start (served ++ [x]) =
      (x.answer.toOption.map (·.parameters)).getD (lastParameters start served) := by
  rw [lastParameters, lastParameters, List.filterMap_append]
  cases hx : x.answer.toOption with
  | none => simp [hx]
  | some r => simp [hx]

end Served

structure SharedPage where
  page : Page
  /-- What each client has still to ask, in its own order. -/
  waiting : Nat → List Request
  /-- In the order in which the lock let the requests in. -/
  served : List Served := []

namespace SharedPage

/-- A client has the lock from the start of its next request to the end. -/
def turn (s : SharedPage) (client : Nat) : SharedPage :=
  match s.waiting client with
  | [] => s
  | r :: rest =>
    let outcome := (Edit.dispatch r.settings r.query).apply s.page
    { page := outcome.2
      waiting := fun c => if c = client then rest else s.waiting c
      served := s.served ++ [⟨client, r, outcome.1⟩] }

end SharedPage

namespace Page

variable {p : Page}

def answer (p : Page) (r : Request) : Except Error Reply :=
  ((Edit.dispatch r.settings r.query).apply p).1

/-- The parameters of the page have no part in the answer, and the page is left with those of the
reply, or with its own if there is none. -/
theorem apply_dispatch_with_parameters (p : Page) (ps : Parameters) (r : Request) :
    (Edit.dispatch r.settings r.query).apply { p with parameters := ps } =
      (p.answer r,
        { p with parameters := ((p.answer r).toOption.map (·.parameters)).getD ps }) := by
  have hagrees : p.Agrees { p with parameters := ps } := fun _ => rfl
  rw [answer, Edit.apply_dispatch, Edit.apply_dispatch, hagrees.authorize_eq_of_id rfl]
  cases p.authorize r.settings (.ofQuery r.query) with
  | error e => rfl
  | ok l => rfl

end Page

namespace SharedPage

variable {p : Page} {requests : Nat → List Request} {s : SharedPage}

/-- The clients asked in their own orders and got the answers that `p` would give to each request
alone, and the page is `p` but for the parameters. -/
structure Undisturbed (p : Page) (requests : Nat → List Request) (s : SharedPage) : Prop where
  inOrder : ∀ client, Served.askedBy client s.served ++ s.waiting client = requests client
  answers : ∀ x ∈ s.served, x.answer = p.answer x.request
  page : s.page = { p with parameters := Served.lastParameters p.parameters s.served }

theorem undisturbed_start (p : Page) (requests : Nat → List Request) :
    Undisturbed p requests { page := p, waiting := requests } where
  inOrder := fun _ => rfl
  answers := fun x hx => by cases hx
  page := rfl

/-- A client that still has something to ask gets its answer when its turn comes. -/
theorem Undisturbed.turn_eq (hs : s.Undisturbed p requests) {client : Nat} {r : Request}
    {rest : List Request} (hwaiting : s.waiting client = r :: rest) :
    s.turn client =
      { page := { p with parameters :=
          Served.lastParameters p.parameters (s.served ++ [⟨client, r, p.answer r⟩]) }
        waiting := fun c => if c = client then rest else s.waiting c
        served := s.served ++ [⟨client, r, p.answer r⟩] } := by
  simp only [turn, hwaiting]
  rw [hs.page, Page.apply_dispatch_with_parameters, Served.lastParameters_append]

theorem Undisturbed.turn (hs : s.Undisturbed p requests) (client : Nat) :
    (s.turn client).Undisturbed p requests := by
  cases hwaiting : s.waiting client with
  | nil =>
      have hidle : s.turn client = s := by simp only [SharedPage.turn, hwaiting]
      rwa [hidle]
  | cons r rest =>
      rw [hs.turn_eq hwaiting]
      refine ⟨?_, ?_, rfl⟩
      · intro c
        rw [Served.askedBy_append, ← hs.inOrder c]
        by_cases hc : c = client
        · simp [hc, hwaiting]
        · simp [hc, Ne.symm hc]
      · intro x hx
        rcases List.mem_append.1 hx with hx | hx
        · exact hs.answers x hx
        · rw [List.mem_singleton.1 hx]

theorem Undisturbed.foldl (hs : s.Undisturbed p requests) (turns : List Nat) :
    (turns.foldl SharedPage.turn s).Undisturbed p requests := by
  induction turns generalizing s with
  | nil => exact hs
  | cons client turns ih => exact ih (hs.turn client)

end SharedPage

namespace Page

variable {p : Page}

/-- In whatever order the clients get their turns, each request is answered as if it were the only
one, and the page keeps the parameters of the last reply. The listeners are resolved the same way at
any time. -/
theorem Reachable.requests_undisturbed (hp : p.Reachable) (requests : Nat → List Request)
    (turns : List Nat) :
    let s := turns.foldl SharedPage.turn { page := p, waiting := requests }
    (∀ client, Served.askedBy client s.served ++ s.waiting client = requests client) ∧
    (∀ client r rest, s.waiting client = r :: rest →
      (s.turn client).served = s.served ++ [⟨client, r, p.answer r⟩]) ∧
    (∀ x ∈ s.served, x.answer = p.answer x.request) ∧
    s.page = { p with parameters := Served.lastParameters p.parameters s.served } ∧
    ∀ settings, ∃ first now, p.renderHead settings = .ok first ∧
      s.page.renderHead settings = .ok now ∧ now.resolutions = first.resolutions := by
  intro s
  have hs : s.Undisturbed p requests := (SharedPage.undisturbed_start p requests).foldl turns
  refine ⟨hs.inOrder, ?_, hs.answers, hs.page, ?_⟩
  · intro client r rest hwaiting
    rw [hs.turn_eq hwaiting]
  · intro settings
    have hslots : s.page.slots = p.slots := by rw [hs.page]
    have hdelegations : s.page.delegations = p.delegations := by rw [hs.page]
    have ht : p.IsTree := hp.isTree
    have htree : s.page.IsTree := ht.of_sameShape (sameShape_of_slots_eq hslots)
    exact ⟨_, _, ht.renderHead_eq settings, htree.renderHead_eq settings,
      resolutions_congr hslots hdelegations settings⟩

def sampleRequests (client : Nat) : List Request :=
  if client = 0 then [⟨{}, "q=2&_listener=form%3Asave%3A0"⟩]
  else if client = 1 then
    [⟨{}, "q=9&_listener=form%3Asave%3A7"⟩, ⟨{}, "q=3&_listener=form%3Asave%3A0"⟩]
  else []

/-- The first request is refused, and the other client comes in between. -/
theorem sample_requests_undisturbed :
    let s := [1, 0, 1].foldl SharedPage.turn { page := sample, waiting := sampleRequests }
    s.served.map (·.client) = [1, 0, 1] ∧
      s.served.map (·.answer.toOption.isSome) = [false, true, true] ∧
      (∀ x ∈ s.served, x.answer = sample.answer x.request) ∧
      s.page = { sample with parameters := ⟨[("q", "3"), ("saved", "yes")]⟩ } := by
  intro s
  obtain ⟨-, -, hanswers, hpage, -⟩ :=
    sample_reachable.requests_undisturbed sampleRequests [1, 0, 1]
  have hlast : Served.lastParameters sample.parameters s.served =
      ⟨[("q", "3"), ("saved", "yes")]⟩ := by
    decide +kernel
  refine ⟨by decide +kernel, by decide +kernel, hanswers, ?_⟩
  rw [← hlast]
  exact hpage

end Page

end PageListeners
