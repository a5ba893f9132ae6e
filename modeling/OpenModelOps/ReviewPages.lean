import OpenModelOps.IntegrationHttp
import OpenModelOps.JsonRecords

namespace OpenModelOps.ReviewPages
open JsonText KeyedTable IntegrationHttp

abbrev Fields := List (Text × Json Number)

-- base_url without its slashes at the end.
structure GitHubReviewClient where
  baseUrl : String
  token : String
  http : JsonHttpClient := {}

def GitHubReviewClient.headers (client : GitHubReviewClient) : Dict String String :=
  ⟨[("Accept","application/vnd.github+json"),("Authorization","Bearer " ++ client.token),
    ("X-GitHub-Api-Version","2022-11-28")],by simp⟩

def pageUrl (url : String) (page : Nat) : String :=
  url ++ (if '?' ∈ url.toList then "&" else "?") ++ "per_page=100&page=" ++ toString page

structure Listing where
  requested : List String
  result : Except Raised (List Fields)

def Listing.after (url : String) (later : Listing) : Listing := ⟨url :: later.requested,later.result⟩

def pagesFrom (fetch : String → Except Raised JsonResponse) (url : String) (page : Nat) (output : List Fields) :
    Nat → Listing
  | 0 => ⟨[],.error (.integrationError "GitHub API pagination exceeded safety limit")⟩
  | remaining + 1 => match fetch (pageUrl url page) with
    | .error raised => ⟨[pageUrl url page],.error raised⟩
    | .ok response => match response.body with
      | .arr items =>
        if items.length < 100 then ⟨[pageUrl url page],.ok (output ++ items.filterMap Json.asObject)⟩
        else .after (pageUrl url page)
          (pagesFrom fetch url (page + 1) (output ++ items.filterMap Json.asObject) remaining)
      | _ => ⟨[pageUrl url page],.error (.integrationError "GitHub API returned an invalid paginated response")⟩

def GitHubReviewClient.fetch (client : GitHubReviewClient) (depth : Nat) (transport : Transport) (url : String) :
    Except Raised JsonResponse :=
  (client.http.request depth transport "GET" url none client.headers).result

def GitHubReviewClient.allPages (client : GitHubReviewClient) (depth : Nat) (transport : Transport) (url : String) : Listing :=
  pagesFrom (client.fetch depth transport) url 1 [] 100

variable {fetch : String → Except Raised JsonResponse} {url : String} {items : List Fields}

def pageOf (items : List Fields) (k : Nat) : List Fields := (items.drop (100 * k)).take 100

structure Serves (fetch : String → Except Raised JsonResponse) (url : String) (items : List Fields) : Prop where
  page : ∀ k, ∃ status, fetch (pageUrl url (k + 1)) = .ok ⟨status,.arr ((pageOf items k).map .obj)⟩

structure Complete (listing : Listing) (url : String) (items : List Fields) : Prop where
  result : listing.result = if items.length < 10000 then .ok items
    else .error (.integrationError "GitHub API pagination exceeded safety limit")
  requested : listing.requested = (List.range' 1 (min 100 (items.length / 100 + 1))).map (pageUrl url)
  bounded : listing.requested.length ≤ 100

theorem asObject_obj (page : List Fields) : (page.map .obj : List (Json Number)).filterMap Json.asObject = page := by
  rw [List.filterMap_map]
  exact List.filterMap_some

theorem pagesFrom_last {k remaining : Nat} (serves : Serves fetch url items) (output : List Fields)
    (short : (pageOf items k).length < 100) : pagesFrom fetch url (k + 1) output (remaining + 1) =
      ⟨[pageUrl url (k + 1)],.ok (output ++ pageOf items k)⟩ := by
  obtain ⟨status,answered⟩ := serves.page k
  have length : ((pageOf items k).map .obj : List (Json Number)).length < 100 := by rw [List.length_map]; exact short
  rw [pagesFrom,answered]
  dsimp only
  rw [if_pos length,asObject_obj]

theorem pagesFrom_full {k remaining : Nat} (serves : Serves fetch url items) (output : List Fields)
    (full : ¬ (pageOf items k).length < 100) : pagesFrom fetch url (k + 1) output (remaining + 1) =
      .after (pageUrl url (k + 1)) (pagesFrom fetch url (k + 1 + 1) (output ++ pageOf items k) remaining) := by
  obtain ⟨status,answered⟩ := serves.page k
  have length : ¬ ((pageOf items k).map .obj : List (Json Number)).length < 100 := by rw [List.length_map]; exact full
  rw [pagesFrom,answered]
  dsimp only
  rw [if_neg length,asObject_obj]

theorem pagesFrom_served (serves : Serves fetch url items) (k remaining : Nat) (read : 100 * k ≤ items.length) :
    (pagesFrom fetch url (k + 1) (items.take (100 * k)) remaining).result =
      (if items.length < 100 * (k + remaining) then .ok items
        else .error (.integrationError "GitHub API pagination exceeded safety limit")) ∧
    (pagesFrom fetch url (k + 1) (items.take (100 * k)) remaining).requested =
      (List.range' (k + 1) (min remaining (items.length / 100 + 1 - k))).map (pageUrl url) := by
  induction remaining generalizing k with
  | zero =>
    rw [if_neg (by omega),Nat.zero_min]
    exact ⟨rfl,rfl⟩
  | succ remaining ih =>
    have length : (pageOf items k).length = min 100 (items.length - 100 * k) := by
      rw [pageOf,List.length_take,List.length_drop]
    have grown : items.take (100 * k) ++ pageOf items k = items.take (100 * (k + 1)) := by
      rw [Nat.mul_add,Nat.mul_one,List.take_add]
      rfl
    by_cases short : (pageOf items k).length < 100
    · have pages : min (remaining + 1) (items.length / 100 + 1 - k) = 1 := by omega
      rw [pagesFrom_last serves _ short,grown,List.take_of_length_le (by omega),if_pos (by omega),pages]
      exact ⟨rfl,rfl⟩
    · have pages : min (remaining + 1) (items.length / 100 + 1 - k) =
          min remaining (items.length / 100 + 1 - (k + 1)) + 1 := by omega
      obtain ⟨result,requested⟩ := ih (k + 1) (by omega)
      rw [pagesFrom_full serves _ short,grown,pages,List.range'_succ,List.map_cons]
      refine ⟨?_,congrArg (pageUrl url (k + 1) :: ·) requested⟩
      rw [Listing.after,result,Nat.add_right_comm k 1 remaining]
      rfl

theorem allPages_result {client : GitHubReviewClient} {depth : Nat} {transport : Transport}
    (serves : Serves (client.fetch depth transport) url items) : (client.allPages depth transport url).result =
      if items.length < 10000 then .ok items
      else .error (.integrationError "GitHub API pagination exceeded safety limit") :=
  (pagesFrom_served serves 0 100 (Nat.zero_le _)).1

-- The whole collection or the error of the limit, page by page.
theorem allPages_complete (client : GitHubReviewClient) (depth : Nat) (transport : Transport) (url : String)
    (items : List Fields) (serves : Serves (client.fetch depth transport) url items) :
    Complete (client.allPages depth transport url) url items := by
  have pages : (client.allPages depth transport url).requested =
      (List.range' 1 (min 100 (items.length / 100 + 1))).map (pageUrl url) :=
    (pagesFrom_served serves 0 100 (Nat.zero_le _)).2
  refine ⟨allPages_result serves,pages,?_⟩
  rw [pages,List.length_map,List.length_range']
  exact Nat.min_le_left _ _

theorem pageUrl_injective (url : String) : Function.Injective (pageUrl url) := by
  intro first second same
  have chars := congrArg String.toList same
  simp only [pageUrl,String.toList_append] at chars
  have numbers := List.append_cancel_left chars
  exact reprText_injective (congrArg (List.map Char.toNat) numbers)

section Single
variable {client : GitHubReviewClient} {content : List UInt8} {other : String}

def single (url : String) (content : List UInt8) : Transport := fun request _ =>
  .success 200 (if request.url = pageUrl url 1 then content else [0x5b,0x5d])

theorem single_fetch (client : GitHubReviewClient) (url : String) (content : List UInt8) (asked : String) :
    client.fetch 10 (single url content) asked =
      parsed 10 200 (if asked = pageUrl url 1 then content else [0x5b,0x5d]) := by
  unfold GitHubReviewClient.fetch
  rw [request_answered client.http 10 (single url content) "GET" asked none client.headers true rfl]
  rfl

theorem single_serves (decoded : parsed 10 200 content = .ok ⟨200,.arr (items.map .obj)⟩) (few : items.length ≤ 100) :
    Serves (client.fetch 10 (single url content)) url items := by
  refine ⟨fun k => ⟨200,?_⟩⟩
  rw [single_fetch,pageOf]
  cases k with
  | zero =>
    rw [if_pos rfl,decoded,Nat.mul_zero,List.drop_zero,List.take_of_length_le few]
  | succ k =>
    have later : pageUrl url (k + 1 + 1) ≠ pageUrl url 1 := by
      intro same
      have pages := pageUrl_injective url same
      omega
    rw [if_neg later,List.drop_eq_nil_of_le (by omega)]
    rfl

theorem single_other (differ : ∀ k, pageUrl other k ≠ pageUrl url 1) :
    Serves (client.fetch 10 (single url content)) other [] := by
  refine ⟨fun k => ⟨200,?_⟩⟩
  rw [single_fetch,if_neg (differ (k + 1)),pageOf,List.drop_nil,List.take_nil]
  rfl

def double (url : String) (first second : List UInt8) : Transport := fun request _ =>
  .success 200 (if request.url = pageUrl url 1 then first else if request.url = pageUrl url 2 then second else [0x5b,0x5d])

theorem double_fetch (client : GitHubReviewClient) (url : String) (first second : List UInt8) (asked : String) :
    client.fetch 10 (double url first second) asked =
      parsed 10 200 (if asked = pageUrl url 1 then first else if asked = pageUrl url 2 then second else [0x5b,0x5d]) := by
  unfold GitHubReviewClient.fetch
  rw [request_answered client.http 10 (double url first second) "GET" asked none client.headers true rfl]
  rfl

theorem double_serves {first second : List UInt8} (few : items.length ≤ 200)
    (decoded : parsed 10 200 first = .ok ⟨200,.arr ((items.take 100).map .obj)⟩)
    (also : parsed 10 200 second = .ok ⟨200,.arr ((items.drop 100).map .obj)⟩) :
    Serves (client.fetch 10 (double url first second)) url items := by
  have apart : ∀ j k, j ≠ k → pageUrl url j ≠ pageUrl url k := fun j k differ same => differ (pageUrl_injective url same)
  refine ⟨fun k => ⟨200,?_⟩⟩
  rw [double_fetch,pageOf]
  rcases k with _ | _ | k
  · rw [if_pos rfl,decoded]
    rfl
  · rw [if_neg (apart 2 1 (by decide)),if_pos rfl,also,List.take_of_length_le (by rw [List.length_drop]; omega)]
  · rw [if_neg (apart _ _ (by omega)),if_neg (apart _ _ (by omega)),List.drop_eq_nil_of_le (by omega)]
    rfl

end Single

def octocat : GitHubReviewClient := ⟨"https://api.github.com","token",{}⟩

def alertsUrl : String := "https://api.github.com/repos/org/repo/dependabot/alerts?state=open"

def repeated (object : List UInt8) (count : Nat) : List UInt8 :=
  0x5b :: ((List.replicate count object).intersperse [0x2c]).flatten ++ [0x5d]

-- A hundred times {}, and on the second page fifty times {"a":true}.
set_option maxRecDepth 20000 in
theorem alerts_listed :
    Complete (octocat.allPages 10 (double alertsUrl (repeated [0x7b,0x7d] 100)
        (repeated [0x7b,0x22,0x61,0x22,0x3a,0x74,0x72,0x75,0x65,0x7d] 50)) alertsUrl)
      alertsUrl (List.replicate 100 [] ++ List.replicate 50 [([0x61],.bool true)]) :=
  allPages_complete octocat 10 _ alertsUrl _ (double_serves (by decide) (by rfl) (by rfl))

end OpenModelOps.ReviewPages
