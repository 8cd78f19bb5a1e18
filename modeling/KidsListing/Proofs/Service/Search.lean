import KidsListing.Proofs.Feed.Search
import KidsListing.Proofs.Service.Degradation

/-!
# How searches are answered

A response tells by its status and its document how a request came out, unless the
document cannot be written.  A search is
refused for its query before any post; otherwise it makes one post, and the reply
decides whether the provider is blamed or a page is shown.  The filter and whatever
stands elsewhere in the document play no part.  The page lists the payloads with a
usable id, exactly when none of them has a view count that is refused.
-/

namespace KidsListing

open KidsListing.Client (Operation)
open KidsListing.Fragment (map_eq_error_iff)
open KidsListing.Listing (ListsUsable sectionPage)
open KidsListing.Scan (SameSections atPlace videoMarker)

/-! ## Outcomes told by responses -/

namespace Response

def Shows (response : Response) (document : Document) : Prop :=
  response.status = 200 ∧ response.payload = .document document

/-- A response refuses the request. -/
def Refuses (response : Response) : Prop :=
  response.status = 400 ∧ ∃ document, response.payload = .document document ∧
    document.step "error_code" = .text "invalid_request"

/-- A response blames the provider, with the status that it answered with or null. -/
def Blames (response : Response) (status : Document) : Prop :=
  response.status = 502 ∧ ∃ document, response.payload = .document document ∧
    document.step "error_code" = .text "upstream_error" ∧
    document.step "upstream_status" = status

/-- Every kind of outcome is told by one kind of response and by no other.  A document that
the writer refuses leaves no response, nor does a defect. -/
structure Surfaces (writer : Writer) (outcome : Except Fault Document)
    (answer : Except Fault Response) : Prop where
  shown : ∀ document, (outcome = .ok document ∧ writer document = none) ↔
    ∃ response, answer = .ok response ∧ response.Shows document
  refused : (∃ problem, outcome = .error (.request problem)) ↔
    ∃ response, answer = .ok response ∧ response.Refuses
  unreachable :
    (∃ problem, outcome = .error (.provider problem) ∧ problem.status = none ∧
      writer (failure problem) = none) ↔
      ∃ response, answer = .ok response ∧ response.Blames .null
  answered : ∀ status,
    (∃ problem, outcome = .error (.provider problem) ∧ problem.status = some status) ↔
      ∃ response, answer = .ok response ∧ response.Blames (.int status)
  broken : ∀ defect,
    (outcome = .error (.defect defect) ∨
      (∃ document, outcome = .ok document ∧ writer document = some defect) ∨
      ∃ problem, outcome = .error (.provider problem) ∧ problem.status = none ∧
        writer (failure problem) = some defect) ↔
      answer = .error (.defect defect)

theorem blames_failure_iff {problem : ProviderProblem} {status : Document} :
    (json 502 (failure problem)).Blames status ↔
      (problem.status.map Document.int).getD .null = status := by
  simp [Blames, json, failure, Document.step, Document.lookup]

theorem surfaces_failure (writer : Writer) (problem : ProviderProblem) :
    Surfaces writer (.error (.provider problem))
      (ofOutcome writer (.error (.provider problem))) := by
  have hcode : (json 502 (failure problem)).status = 502 := rfl
  rw [ofOutcome]
  split
  · rename_i hnone
    cases hwriter : writer (failure problem) with
    | none =>
        constructor <;> simp [written, hwriter, blames_failure_iff, Shows, Refuses, hcode, hnone]
    | some defect => constructor <;> simp [written, hwriter, hnone]
  · rename_i hsome
    obtain ⟨status, hstatus⟩ := Option.ne_none_iff_exists'.1 hsome
    constructor <;> simp [blames_failure_iff, Shows, Refuses, hcode, hstatus]

theorem surfaces_ofOutcome (writer : Writer) (outcome : Except Fault Document) :
    Surfaces writer outcome (ofOutcome writer outcome) := by
  cases outcome with
  | ok document =>
      cases hwriter : writer document with
      | none =>
          constructor <;> simp [ofOutcome, written, hwriter, json, Shows, Refuses, Blames]
      | some defect =>
          constructor <;> simp [ofOutcome, written, hwriter]
  | error fault =>
      cases fault with
      | request problem =>
          constructor <;> simp [ofOutcome, json, refused, Shows, Refuses, Blames,
            Document.step, Document.lookup]
      | provider problem => exact surfaces_failure writer problem
      | defect defect => constructor <;> simp [ofOutcome]

def withHeaders (more : List (String × String)) (response : Response) : Response :=
  { response with headers := response.headers ++ more }

theorem exists_ok_withHeaders_iff {more : List (String × String)} (P : Response → Prop)
    (hP : ∀ response, P (response.withHeaders more) ↔ P response)
    (answer : Except Fault Response) :
    (∃ response, answer.map (withHeaders more) = .ok response ∧ P response) ↔
      ∃ response, answer = .ok response ∧ P response := by
  cases answer with
  | error fault => simp [Except.map]
  | ok response => simp [Except.map, hP]

/-- Headers tell nothing of the outcome. -/
theorem Surfaces.withHeaders {writer : Writer} {outcome : Except Fault Document}
    {answer : Except Fault Response} (h : Surfaces writer outcome answer)
    (more : List (String × String)) :
    Surfaces writer outcome (answer.map (withHeaders more)) where
  shown document := by
    rw [h.shown, exists_ok_withHeaders_iff (Shows · document) fun _ => Iff.rfl]
  refused := by
    rw [h.refused, exists_ok_withHeaders_iff Refuses fun _ => Iff.rfl]
  unreachable := by
    rw [h.unreachable, exists_ok_withHeaders_iff (Blames · .null) fun _ => Iff.rfl]
  answered status := by
    rw [h.answered, exists_ok_withHeaders_iff (Blames · (.int status)) fun _ => Iff.rfl]
  broken defect := by
    rw [h.broken, map_eq_error_iff]

/-- A run of which the outcome is told by a response. -/
def ofRun (writer : Writer) (run : Run Document) : Run Response :=
  ⟨ofOutcome writer run.outcome, run.events⟩

theorem posts_ofRun (writer : Writer) (run : Run Document) :
    (ofRun writer run).posts = run.posts :=
  rfl

end Response

/-! ## Searches -/

/-- A parameter gives the query of a search, which is neither empty nor too long. -/
def Searches (parameter : Option String) (query : String) : Prop :=
  parameter = some query ∧ query ≠ "" ∧ query.length ≤ 100

theorem Searches.unique {parameter : Option String} {query other : String}
    (h : Searches parameter query) (hother : Searches parameter other) : query = other :=
  Option.some.inj (h.1.symm.trans hother.1)

theorem inquiry?_eq_some_iff {parameter : Option String} {inquiry : Inquiry} :
    (Operation.search (some (parameter.getD ""))).inquiry? = some inquiry ↔
      ∃ query, Searches parameter query ∧ inquiry = .search query := by
  simp only [Operation.inquiry?, Searches]
  cases parameter with
  | none => simp
  | some text =>
      rw [Option.getD_some]
      split
      · rename_i hrefused
        apply iff_of_false (Option.some_ne_none inquiry).symm
        rintro ⟨query, ⟨⟨⟩, hne, hlength⟩, -⟩
        exact hrefused.elim hne (Nat.not_lt.2 hlength)
      · rename_i haccepted
        obtain ⟨hne, hlength⟩ := not_or.1 haccepted
        constructor
        · intro h
          exact ⟨text, ⟨rfl, hne, Nat.le_of_not_lt hlength⟩, (Option.some.inj h).symm⟩
        · rintro ⟨query, ⟨⟨⟩, -⟩, rfl⟩
          rfl

theorem inquiry?_of_searches {parameter : Option String} {query : String}
    (h : Searches parameter query) :
    (Operation.search (some (parameter.getD ""))).inquiry? = some (.search query) :=
  inquiry?_eq_some_iff.2 ⟨query, h, rfl⟩

theorem inquiry?_of_not_searches {parameter : Option String}
    (h : ∀ query, ¬ Searches parameter query) :
    (Operation.search (some (parameter.getD ""))).inquiry? = none := by
  cases hinquiry : (Operation.search (some (parameter.getD ""))).inquiry? with
  | none => rfl
  | some inquiry =>
      obtain ⟨query, hquery, -⟩ := inquiry?_eq_some_iff.1 hinquiry
      exact absurd hquery (h query)

namespace Service

variable (service : Service) (provider : Provider)

/-- How a search for the query of a parameter is answered, with the posts that it
makes. -/
structure AnswersSearch (service : Service) (provider : Provider) (parameter : Option String)
    (answer : Run Response) : Prop where
  refused : (∃ response, answer.outcome = .ok response ∧ response.Refuses) ↔
    ∀ query, ¬ Searches parameter query
  unasked : answer.posts = [] ↔ ∀ query, ¬ Searches parameter query
  asked : ∀ query, Searches parameter query → ∃ post, answer.posts = [post] ∧
    post.inquiry = .search query ∧ post.Carries service.settings (.search query)
  unreachable : (∃ response, answer.outcome = .ok response ∧ response.Blames .null) ↔
    ∃ query reason, Searches parameter query ∧ provider (.search query) = .unreachable reason ∧
      service.writer (Response.failure (.unreachable reason)) = none
  answered : ∀ status,
    (∃ response, answer.outcome = .ok response ∧ response.Blames (.int status)) ↔
      ∃ query body, Searches parameter query ∧
        provider (.search query) = .answered status body ∧
        (¬ Reply.Successful status ∨ body = .notJson)
  shown : ∀ query root, Searches parameter query → provider.Delivers (.search query) root →
    service.writer (sectionPage root).toDocument = none →
    ∃ response, answer.outcome = .ok response ∧ response.Shows (sectionPage root).toDocument
  broken : ∀ defect, answer.outcome = .error (.defect defect) ↔
    ∃ query, Searches parameter query ∧
      ((provider (.search query)).Breaks defect ∨
        (∃ root, provider.Delivers (.search query) root ∧
          service.writer (sectionPage root).toDocument = some defect) ∨
        ∃ reason, provider (.search query) = .unreachable reason ∧
          service.writer (Response.failure (.unreachable reason)) = some defect)

section Answers

variable {service : Service} {provider : Provider} {parameter : Option String}
  {answer : Run Response}

/-- Without a query the request is refused. -/
theorem answersSearch_of_not_searches (h : ∀ query, ¬ Searches parameter query)
    {problem : RequestProblem}
    (hsurfaces : Response.Surfaces service.writer (.error (.request problem)) answer.outcome)
    (hposts : answer.posts = []) : AnswersSearch service provider parameter answer where
  refused := iff_of_true (hsurfaces.refused.1 ⟨problem, rfl⟩) h
  unasked := iff_of_true hposts h
  asked query hquery := absurd hquery (h query)
  unreachable := by
    rw [← hsurfaces.unreachable]
    apply iff_of_false
    · rintro ⟨_, ⟨⟩, -⟩
    · rintro ⟨query, -, hquery, -⟩
      exact h query hquery
  answered status := by
    rw [← hsurfaces.answered]
    apply iff_of_false
    · rintro ⟨_, ⟨⟩, -⟩
    · rintro ⟨query, -, hquery, -⟩
      exact h query hquery
  shown query _ hquery := absurd hquery (h query)
  broken defect := by
    rw [← hsurfaces.broken]
    apply iff_of_false
    · rintro (⟨⟨⟩⟩ | ⟨_, ⟨⟩, -⟩ | ⟨_, ⟨⟩, -⟩)
    · rintro ⟨query, hquery, -⟩
      exact h query hquery

/-- With a query the reply decides. -/
theorem answersSearch_of_searches {query : String} (h : Searches parameter query)
    (hsurfaces : Response.Surfaces service.writer
      ((provider (.search query)).document.map fun root => (sectionPage root).toDocument)
      answer.outcome)
    (hposts : answer.posts = [(Inquiry.search query).post service.settings]) :
    AnswersSearch service provider parameter answer where
  refused := by
    rw [← hsurfaces.refused]
    apply iff_of_false
    · rintro ⟨problem, hproblem⟩
      exact (provider (.search query)).accountsFor_document.accepted problem
        (map_eq_error_iff.1 hproblem)
    · exact fun hnone => hnone query h
  unasked := by
    apply iff_of_false
    · rw [hposts]
      exact List.cons_ne_nil _ _
    · exact fun hnone => hnone query h
  asked other hother := by
    obtain rfl := h.unique hother
    exact ⟨_, hposts, rfl, Inquiry.carries_post service.settings _⟩
  unreachable := by
    simp only [← hsurfaces.unreachable, map_eq_error_iff]
    rw [Reply.document_unreachable_iff fun problem =>
      service.writer (Response.failure problem) = none]
    constructor
    · rintro ⟨reason, hreason⟩
      exact ⟨query, reason, h, hreason⟩
    · rintro ⟨other, reason, hother, hreason⟩
      obtain rfl := h.unique hother
      exact ⟨reason, hreason⟩
  answered status := by
    simp only [← hsurfaces.answered, map_eq_error_iff]
    rw [(provider (.search query)).accountsFor_document.answered]
    constructor
    · rintro ⟨body, hbody⟩
      exact ⟨query, body, h, hbody⟩
    · rintro ⟨other, body, hother, hbody⟩
      obtain rfl := h.unique hother
      exact ⟨body, hbody⟩
  shown other root hother hroot hwriter := by
    obtain rfl := h.unique hother
    apply (hsurfaces.shown _).1
    rw [hroot]
    exact ⟨rfl, hwriter⟩
  broken defect := by
    simp only [← hsurfaces.broken, map_eq_error_iff]
    rw [(provider (.search query)).accountsFor_document.broken,
      Reply.document_unreachable_iff fun problem =>
        service.writer (Response.failure problem) = some defect]
    constructor
    · rintro (hbreaks | ⟨document, hdocument, hwriter⟩ | hreason)
      · exact ⟨query, h, .inl hbreaks⟩
      · obtain ⟨root, hroot, rfl⟩ := Fragment.map_eq_ok hdocument
        exact ⟨query, h, .inr (.inl ⟨root, hroot, hwriter⟩)⟩
      · exact ⟨query, h, .inr (.inr hreason)⟩
    · rintro ⟨other, hother, hbroken⟩
      obtain rfl := h.unique hother
      apply hbroken.imp_right
      apply Or.imp_left
      rintro ⟨root, hroot, hwriter⟩
      exact ⟨_, by rw [hroot]; rfl, hwriter⟩

end Answers

theorem serve_search (query : String) :
    service.serve provider query .search =
      SearchPage.toDocument <$> Listing.searchVideos service.settings provider
        (some ((Query.value? query.toList "q").getD "")) :=
  rfl

variable {service provider} in
theorem answersSearch_of_surfaces {parameter : Option String} {answer : Run Response}
    (hsurfaces : Response.Surfaces service.writer
      ((Listing.searchVideos service.settings provider (some (parameter.getD ""))).outcome.map
        SearchPage.toDocument) answer.outcome)
    (hposts : answer.posts =
      (Listing.searchVideos service.settings provider (some (parameter.getD ""))).posts) :
    AnswersSearch service provider parameter answer := by
  rw [Listing.posts_searchVideos] at hposts
  by_cases h : ∃ query, Searches parameter query
  · obtain ⟨query, hquery⟩ := h
    have hinquiry := inquiry?_of_searches hquery
    have hdocument : ((provider (.search query)).document.map sectionPage).map
        SearchPage.toDocument =
          (provider (.search query)).document.map fun root => (sectionPage root).toDocument := by
      cases (provider (.search query)).document <;> rfl
    rw [hinquiry, Option.map_some, Option.toList_some] at hposts
    rw [Listing.outcome_searchVideos service.settings provider hinquiry, hdocument] at hsurfaces
    exact answersSearch_of_searches hquery hsurfaces hposts
  · have hnone : ∀ query, ¬ Searches parameter query := not_exists.1 h
    have hinquiry := inquiry?_of_not_searches hnone
    obtain ⟨problem, hfail⟩ := Listing.searchVideos_of_no_inquiry service.settings hinquiry
    rw [hinquiry, Option.map_none, Option.toList_none] at hposts
    rw [hfail provider] at hsurfaces
    exact answersSearch_of_not_searches hnone hsurfaces hposts

theorem answersSearch_ofRun (parameter filter : Option String) :
    AnswersSearch service provider parameter
      (Response.ofRun service.writer (SearchPage.toDocument <$>
        Endpoint.search (.ofProvider service.settings provider) parameter filter)) := by
  have hsearch : Endpoint.search (.ofProvider service.settings provider) parameter filter =
      Listing.searchVideos service.settings provider (some (parameter.getD "")) := rfl
  have hsurfaces := Response.surfaces_ofOutcome service.writer (SearchPage.toDocument <$>
    Listing.searchVideos service.settings provider (some (parameter.getD ""))).outcome
  rw [hsearch]
  apply answersSearch_of_surfaces
  · rw [← Run.outcome_map]
    exact hsurfaces
  · rw [Response.posts_ofRun, Run.posts_map]

theorem answersSearch_respond {request : Request} (hmethod : request.method = "GET")
    (hroute : Route.find? request.path = some .search) :
    AnswersSearch service provider (Query.value? request.query.toList "q")
      (service.respond provider request) := by
  have hsurfaces := (Response.surfaces_ofOutcome service.writer
    (service.serve provider request.query .search).outcome).withHeaders
      (CrossOrigin.answerHeaders service.origins request.headers)
  have hrespond := outcome_respond_of_get service provider hmethod hroute
  rw [serve_search, Run.outcome_map] at hsurfaces hrespond
  apply answersSearch_of_surfaces
  · rw [hrespond]
    exact hsurfaces
  · rw [posts_respond_of_get service provider hmethod hroute, serve_search, Run.posts_map]

/-- With a query the page of the delivered document comes out. -/
theorem outcome_search_of_delivers {parameter : Option String} {query : String} {root : Document}
    (h : Searches parameter query) (hroot : provider.Delivers (.search query) root)
    (filter : Option String) :
    (Endpoint.search (.ofProvider service.settings provider) parameter filter).outcome =
      .ok (sectionPage root) := by
  have hsearch :
      (Endpoint.search (.ofProvider service.settings provider) parameter filter).outcome =
        (provider (.search query)).document.map sectionPage :=
    Listing.outcome_searchVideos service.settings provider (inquiry?_of_searches h)
  rw [hsearch, hroot]
  rfl

/-- A video of which nothing is known but its id and some text for its view count. -/
def viewed (views : String) : Document :=
  .object [
    ("videoId", .text "a"),
    ("viewCountText", .object [("simpleText", .text views)])]

/-- A document with one entry in one section and some entries elsewhere. -/
def oneEntry (payload : Document) (elsewhere : List (String × Document)) : Document :=
  .object (("contents", .object [
    ("sectionListRenderer", .object [
      ("contents", .list [.object [
        ("itemSectionRenderer", .object [
          ("contents", .list [.object [(videoMarker, payload)]])])]])])]) :: elsewhere)

def delivering (root : Document) : Provider :=
  fun _ => .answered 200 (.document root)

def searchRequest (query : String) : Request where
  host := "test"
  method := "GET"
  path := "/kids/search"
  query := query
  headers := []

theorem viewsRefused_viewed_iff {views : String} :
    (viewed views).ViewsRefused ↔ ViewCount.Refused views.toList := by
  have hlabel : ((viewed views).step "viewCountText").label = .ok views := rfl
  simp only [Document.ViewsRefused, hlabel, Except.ok.injEq, exists_eq_left']

theorem places_oneEntry (views : String) (elsewhere : List (String × Document)) :
    Scan.places videoMarker (oneEntry (viewed views) elsewhere) = [(0, 0)] :=
  rfl

theorem written_oneEntry (views : String) : (oneEntry (viewed views) []).Written := by
  simp [oneEntry, viewed, Document.written_object, Document.written_list, Document.written_text]

theorem searches_a : Searches (some "a") "a" :=
  ⟨rfl, by decide, by decide⟩

theorem not_numbersOversized_viewed : ¬ (viewed "1.2M views").NumbersOversized := by
  rintro (⟨length, hlength, hoversized⟩ | ⟨views, hviews, hoversized⟩)
  · cases hlength
    exact Duration.parse?_lt_pow_iff.1 (Fragment.bounded_counted_iff.1 (.inl rfl)) hoversized
  · cases hviews
    have hbounded : Fragment.Bounded (Fragment.counted (some 1200000)) :=
      .inr ⟨1200000, rfl, by decide⟩
    exact ViewCount.parse_lt_pow_iff.1
      ⟨some 1200000, rfl, Fragment.bounded_counted_iff.1 hbounded⟩ hoversized

theorem outcome_search_of_refused {views : String} (h : ViewCount.Refused views.toList) :
    (Endpoint.search (.ofProvider {} (delivering (oneEntry (viewed views) [])))
      (some "a") none).outcome = .ok { items := [] } := by
  have hwritten : (viewed views).Written :=
    (written_oneEntry views).walk (Scan.placePath (0, 0) ++ [Document.Step.key videoMarker])
  have hlost : Listing.video? (viewed views) = none := by
    rw [Option.eq_none_iff_forall_ne_some]
    intro v hv
    have hitem := (Fragment.exists_item_iff_not_viewsRefused hwritten rfl).1
      ⟨v, Listing.video?_eq_some_iff.1 hv⟩
    exact hitem (viewsRefused_viewed_iff.2 h)
  have hpage : sectionPage (oneEntry (viewed views) []) = { items := [] } := by
    have hpayloads : Scan.sectionPayloads videoMarker (oneEntry (viewed views) []) =
        [viewed views] := rfl
    rw [sectionPage, hpayloads, List.filterMap_cons_none hlost, List.filterMap_nil]
  have houtcome := Listing.outcome_searchVideos {} (delivering (oneEntry (viewed views) []))
    (inquiry?_of_searches searches_a)
  rw [← hpage]
  exact houtcome

theorem not_listsUsable_nil (views : String) : ¬ ListsUsable (oneEntry (viewed views) []) [] := by
  rintro ⟨hosts, -, hmem, hdecode⟩
  obtain rfl := List.forall₂_nil_right_iff.1 hdecode
  have husable := (hmem (0, 0)).2 rfl
  cases husable

/-- So many nines that the view count is refused. -/
def enormousViews : String :=
  String.ofList (ViewCount.thousands 999998)

end Service

end KidsListing
