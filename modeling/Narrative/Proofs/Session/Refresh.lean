/-
Module: Narrative.Proofs.Session.Refresh
Purpose: Asking for the page again. The answer is the page that is shown already, and the website stays
  as it is, so whoever plays a story may refresh the page at any time.
Main exports: Website.answerAll, withoutRefreshes, Website.Shows, Website.shows_answer,
  Website.answerAll_withoutRefreshes, Website.refreshes_invisible
-/
import Narrative.Page
import Narrative.Proofs.Outcome

namespace Narrative

/-! ### Requests one after the other -/

/-- Answers requests one after the other. Each is given with its answer. -/
def Website.answerAll (site : Website) : List Request → Website × List (Request × Response)
  | [] => (site, [])
  | request :: rest =>
    let (after, response) := site.answer request
    let (final, exchanges) := after.answerAll rest
    (final, (request, response) :: exchanges)

/-- Leaves out what asks for the page after the first entry. -/
def withoutRefreshes {α : Type} (asks : α → Request) : List α → List α
  | [] => []
  | first :: rest => first :: rest.filter (asks · ≠ .get)

namespace Website

variable {site : Website} {response : Response}

theorem answerAll_cons (site : Website) (request : Request) (rest : List Request) :
    site.answerAll (request :: rest) =
      (((site.answer request).1.answerAll rest).1,
        (request, (site.answer request).2) :: ((site.answer request).1.answerAll rest).2) := rfl

theorem answerAll_append (site : Website) (requests others : List Request) :
    site.answerAll (requests ++ others) =
      (((site.answerAll requests).1.answerAll others).1,
        (site.answerAll requests).2 ++ ((site.answerAll requests).1.answerAll others).2) := by
  induction requests generalizing site with
  | nil => rfl
  | cons request rest ih => simp only [List.cons_append, answerAll_cons, ih]

/-! ### What is shown -/

/-- The answer is the page of the text that the website shows. -/
def Shows (site : Website) (response : Response) : Prop :=
  ∃ text, site.text? = some text ∧ response = .shown (page site.app.title text)

/-- As long as a website shows a text, asking for the page gives the same answer and changes nothing. -/
theorem Shows.answer_get (shows : site.Shows response) : site.answer .get = (site, response) := by
  obtain ⟨text, shown, rfl⟩ := shows
  have told : (Serve.textFor none).run.run site = (.ok text, site) := by
    have asked : (get : Serve Website).run.run site = (.ok site, site) := rfl
    unfold Serve.textFor
    rw [run_run_bind, asked]
    dsimp only
    rw [shown]
    rfl
  unfold answer
  dsimp only
  rw [told]

/-- A text that answers a request is shown from then on. -/
theorem text?_of_textFor {command? : Option String} {text : String} {after : Website}
    (told : (Serve.textFor command?).run.run site = (.ok text, after)) : after.text? = some text := by
  have remembered {written : String} {there : Website}
      (ended : (do
        Serve.remember written
        return written : Serve String).run.run there = (.ok text, after)) : after.text? = some text := by
    cases ended
    rfl
  have asked : (get : Serve Website).run.run site = (.ok site, site) := rfl
  unfold Serve.textFor at told
  rw [run_run_bind, asked] at told
  dsimp only at told
  split at told
  next shown =>
    cases told
    exact shown
  next =>
    rw [run_run_bind] at told
    split at told
    next => exact remembered told
    next => cases told
  next =>
    rw [run_run_bind] at told
    split at told
    next => exact remembered told
    next => cases told

/-- A request with all it needs is answered by the page of its text, or it fails. -/
theorem answer_cases {request : Request} (complete : request ≠ .post none) :
    (∃ command? text after, (Serve.textFor command?).run.run site = (.ok text, after) ∧
        site.answer request = (after, .shown (page after.app.title text))) ∨
      (site.answer request).2 = .serverError := by
  unfold answer
  cases request with
  | get =>
      dsimp only
      split
      next text after told => exact .inl ⟨none, text, after, told, rfl⟩
      next => exact .inr rfl
  | post command? =>
      cases command? with
      | none => exact absurd rfl complete
      | some command =>
          dsimp only
          split
          next text after told => exact .inl ⟨some command, text, after, told, rfl⟩
          next => exact .inr rfl

/-- After a request with all it needs that did not fail, the answer is the page that is shown. -/
theorem shows_answer {request : Request} (complete : request ≠ .post none)
    (served : (site.answer request).2 ≠ .serverError) :
    (site.answer request).1.Shows (site.answer request).2 := by
  rcases answer_cases complete with ⟨command?, text, after, told, answered⟩ | failed
  · rw [answered]
    exact ⟨text, text?_of_textFor told, rfl⟩
  · exact absurd failed served

/-- After requests that all went well, the last answer is the page that is shown. -/
theorem shows_answerAll {requests : List Request} (some_asked : requests ≠ [])
    (complete : .post none ∉ requests)
    (served : ∀ exchange ∈ (site.answerAll requests).2, exchange.2 ≠ .serverError) :
    ∃ exchange, (site.answerAll requests).2.getLast? = some exchange ∧
      (site.answerAll requests).1.Shows exchange.2 := by
  induction requests generalizing site with
  | nil => exact absurd rfl some_asked
  | cons request rest ih =>
      rw [answerAll_cons, List.forall_mem_cons] at served
      rw [List.mem_cons, not_or] at complete
      obtain ⟨first_served, rest_served⟩ := served
      cases rest with
      | nil => exact ⟨_, rfl, shows_answer (Ne.symm complete.1) first_served⟩
      | cons next others =>
          obtain ⟨exchange, last, shows⟩ := ih (List.cons_ne_nil _ _) complete.2 rest_served
          exact ⟨exchange, (List.getLast?_cons_cons ..).trans last, shows⟩

/-! ### Playing without refreshing -/

/-- Where a text is shown, leaving out what asks for the page leaves out those answers, and nothing
else. -/
theorem Shows.answerAll_filter {requests : List Request} (shows : site.Shows response)
    (complete : .post none ∉ requests)
    (served : ∀ exchange ∈ (site.answerAll requests).2, exchange.2 ≠ .serverError) :
    site.answerAll (requests.filter (· ≠ .get)) =
      ((site.answerAll requests).1, (site.answerAll requests).2.filter (·.1 ≠ .get)) := by
  induction requests generalizing site response with
  | nil => rfl
  | cons request rest ih =>
      rw [answerAll_cons, List.forall_mem_cons] at served
      rw [List.mem_cons, not_or] at complete
      obtain ⟨first_served, rest_served⟩ := served
      cases request with
      | get =>
          rw [shows.answer_get] at rest_served
          rw [answerAll_cons, shows.answer_get]
          exact ih shows complete.2 rest_served
      | post command? =>
          have next := ih (shows_answer (Ne.symm complete.1) first_served) complete.2 rest_served
          have kept : (Request.post command? :: rest).filter (· ≠ .get) =
              .post command? :: rest.filter (· ≠ .get) := rfl
          rw [kept, answerAll_cons, next]
          rfl

/-- The first request may be the one that begins the story; all later ones for the page may be left
out. -/
theorem answerAll_withoutRefreshes {requests : List Request} (complete : .post none ∉ requests)
    (served : ∀ exchange ∈ (site.answerAll requests).2, exchange.2 ≠ .serverError) :
    site.answerAll (withoutRefreshes id requests) =
      ((site.answerAll requests).1, withoutRefreshes (·.1) (site.answerAll requests).2) := by
  cases requests with
  | nil => rfl
  | cons request rest =>
      rw [answerAll_cons, List.forall_mem_cons] at served
      rw [List.mem_cons, not_or] at complete
      obtain ⟨first_served, rest_served⟩ := served
      have next := (shows_answer (Ne.symm complete.1) first_served).answerAll_filter complete.2
        rest_served
      simp only [withoutRefreshes, id_eq, answerAll_cons, next]

end Website

/-- Refreshing the page is invisible, provided that every form holds a command and no request fails.
Whenever the page is asked for after the first request, the answer is the last one before, and the whole
website stays as it is: its world, its engine and the random numbers that are left. Without these
requests the website ends as it does with them, and gives all other answers alike. -/
theorem Website.refreshes_invisible (site : Website) {requests : List Request}
    (complete : .post none ∉ requests)
    (served : ∀ exchange ∈ (site.answerAll requests).2, exchange.2 ≠ .serverError) :
    (∀ before after, before ≠ [] → requests = before ++ .get :: after →
      ∃ exchange, (site.answerAll before).2.getLast? = some exchange ∧
        (site.answerAll before).1.answer .get = ((site.answerAll before).1, exchange.2)) ∧
      site.answerAll (withoutRefreshes id requests) =
        ((site.answerAll requests).1, withoutRefreshes (·.1) (site.answerAll requests).2) := by
  refine ⟨?_, Website.answerAll_withoutRefreshes complete served⟩
  rintro before after some_asked rfl
  rw [Website.answerAll_append] at served
  obtain ⟨exchange, last, shows⟩ := Website.shows_answerAll some_asked
    (fun member => complete (List.mem_append_left _ member))
    (fun exchange member => served exchange (List.mem_append_left _ member))
  exact ⟨exchange, last, shows.answer_get⟩

/-- A hall that sounds different each time it is described. -/
def drippingHall : Model.World where
  start := "hall"
  title := "Hall"
  player := {}
  locations := [{
    name := "Hall", key? := some "hall", tags? := none
    passage := { description? := some "[r]\x7bDrip.\x7d\x7bDrop.\x7d" }, disableExit := false
    descriptors := [], locations := [], interactions := [], combinations := [] }]
  items := []

/-- Whoever refreshes the page before and after looking around hears the same in the hall. -/
theorem Website.refreshes_invisible_drippingHall :
    ∃ app, App.start (Path.parse "hall.yaml") false ⟨Path.parse "scripts", [], []⟩ drippingHall =
        .ok app ∧
      ∀ site : Website, site = { app, picks := [1, 0] } →
        (∀ exchange ∈ (site.answerAll [.get, .get, .post (some "l"), .get]).2,
          exchange.2 ≠ .serverError) ∧
        site.answerAll [.get, .post (some "l")] =
          ((site.answerAll [.get, .get, .post (some "l"), .get]).1,
            withoutRefreshes (·.1) (site.answerAll [.get, .get, .post (some "l"), .get]).2) := by
  have checked : (App.start (Path.parse "hall.yaml") false ⟨Path.parse "scripts", [], []⟩
      drippingHall).toOption.any (fun app =>
        decide (∀ exchange ∈ (Website.answerAll { app, picks := [1, 0] }
          [.get, .get, .post (some "l"), .get]).2, exchange.2 ≠ .serverError)) = true := by
    decide +kernel
  obtain ⟨app, started, served⟩ := (Option.any_eq_true _ _).1 checked
  refine ⟨app, eq_ok_of_toOption started, ?_⟩
  rintro site rfl
  have served := of_decide_eq_true served
  exact ⟨served, (Website.refreshes_invisible _ (by decide) served).2⟩

end Narrative
