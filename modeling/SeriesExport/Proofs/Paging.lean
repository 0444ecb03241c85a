import Mathlib
import SeriesExport.Fetch.Export
import SeriesExport.Proofs.Exchange

/-!
# Which pages an entity has

A page is the last one of an entity if the total that it reports is no more than what the pages up to it hold, its
number times the size of a page, counted exactly. `PagesFrom` says this of a list of pages that have come in, and
`PagesBefore` says of a list that it has no last page yet. `lastPage` finds the number of the last page in pages without
end (`pagesFrom_take_lastPage`); it exists, for totals are numbers of 64 bits.

`Environment.Serves` says which pages a server answers a list of requests with. A server that has its replies in a
row (`Environment.inTurn`) serves any requests alike, as long as they are pages (`serves_inTurn_of_lt`).
-/

namespace SeriesExport

/-- The page in a reply, if its status is between 200 and 299 and its body is a page. -/
def Reply.page? : Reply → Option Page := Reply.read? Page.decode

/-- How many records a page of an entity holds. -/
def pageSize (config : Config) : Entity → ℕ
  | .source _ => config.dataPerPage.toNat
  | .aggregation .. => config.aggregationPerPage.toNat

theorem toNat_perPage (config : Config) (entity : Entity) : (config.perPage entity).toNat = pageSize config entity := by
  cases entity <;> rfl

/-- A configuration that is accepted has no page size of zero. -/
theorem Config.perPage_ne_zero {config : Config} (h : config.validate = .ok ()) (entity : Entity) :
    config.perPage entity ≠ 0 := by
  obtain ⟨-, hdata, haggregation, -⟩ := (validate_eq_ok_iff config).mp h
  cases entity with
  | source id => exact hdata
  | aggregation a s => exact haggregation

theorem pageSize_pos {config : Config} (h : config.validate = .ok ()) (entity : Entity) :
    0 < pageSize config entity := by
  rw [← toNat_perPage]
  exact Nat.pos_of_ne_zero fun h0 => Config.perPage_ne_zero h entity (UInt64.toNat_inj.mp h0)

/-- The request for a page of an entity. -/
def pageRequest (setting : FetchSetting) (token : Option String) (entity : Entity) (page : ℕ) : Request where
  baseUrl := setting.config.apiUrl
  path := entity.path
  query := [("start", setting.range.startParam), ("end", setting.range.stopParam),
    ("per_page", toString (pageSize setting.config entity)), ("page", toString page)]
  authHeader := setting.config.authHeader
  token
  timeout := setting.config.timeout

/-! ## The last page -/

/-- The pages from page `p` on, of `k` records each: all but the last report more than the pages up to them hold. -/
inductive PagesFrom (k : ℕ) : ℕ → List Page → Prop
  | last {p : ℕ} {page : Page} : page.total.toNat ≤ p * k → PagesFrom k p [page]
  | more {p : ℕ} {page : Page} {pages : List Page} :
      p * k < page.total.toNat → PagesFrom k (p + 1) pages → PagesFrom k p (page :: pages)

/-- Pages from page `p` on, of `k` records each, that all report more than the pages up to them hold. -/
inductive PagesBefore (k : ℕ) : ℕ → List Page → Prop
  | nil (p : ℕ) : PagesBefore k p []
  | cons {p : ℕ} {page : Page} {pages : List Page} :
      p * k < page.total.toNat → PagesBefore k (p + 1) pages → PagesBefore k p (page :: pages)

theorem PagesFrom.exists_last {k p : ℕ} {pages : List Page} (h : PagesFrom k p pages) : ∃ front page,
    pages = front ++ [page] ∧ PagesBefore k p front ∧ page.total.toNat ≤ (p + front.length) * k := by
  induction h with
  | @last p page hlast => exact ⟨[], page, rfl, .nil p, hlast⟩
  | @more p page pages hmore _ ih =>
    obtain ⟨front, last, rfl, hfront, hlast⟩ := ih
    refine ⟨page :: front, last, rfl, .cons hmore hfront, ?_⟩
    rw [List.length_cons, Nat.add_comm front.length 1, ← Nat.add_assoc]
    exact hlast

theorem PagesBefore.concat {k p : ℕ} {front : List Page} {page : Page} (h : PagesBefore k p front)
    (hlast : page.total.toNat ≤ (p + front.length) * k) : PagesFrom k p (front ++ [page]) := by
  induction h with
  | nil p => exact .last hlast
  | @cons p page' pages hmore _ ih =>
    refine .more hmore (ih ?_)
    rw [List.length_cons, Nat.add_comm pages.length 1, ← Nat.add_assoc] at hlast
    exact hlast

/-- The number of the first page, counted from 1, that reports no more than the pages up to it hold. -/
noncomputable def lastPage (k : ℕ) (pages : Stream' Page) : ℕ :=
  sInf {p | 1 ≤ p ∧ (pages.get (p - 1)).total.toNat ≤ p * k}

theorem lastPage_mem {k : ℕ} (hk : 0 < k) (pages : Stream' Page) :
    1 ≤ lastPage k pages ∧ (pages.get (lastPage k pages - 1)).total.toNat ≤ lastPage k pages * k := by
  refine Nat.sInf_mem (s := {p | 1 ≤ p ∧ (pages.get (p - 1)).total.toNat ≤ p * k}) ⟨UInt64.size, ?_, ?_⟩
  · decide
  · calc (pages.get (UInt64.size - 1)).total.toNat
        ≤ UInt64.size := Nat.le_of_lt (UInt64.toNat_lt_size _)
      _ ≤ UInt64.size * k := Nat.le_mul_of_pos_right _ hk

theorem lt_total_of_lt_lastPage {k p : ℕ} {pages : Stream' Page} (h1 : 1 ≤ p) (h : p < lastPage k pages) :
    p * k < (pages.get (p - 1)).total.toNat := by
  have hp := Nat.notMem_of_lt_sInf h
  simp only [Set.mem_ofPred_eq, not_and, not_le] at hp
  exact hp h1

theorem lastPage_eq {k n : ℕ} {pages : Stream' Page} (h1 : 1 ≤ n) (hlast : (pages.get (n - 1)).total.toNat ≤ n * k)
    (hmore : ∀ p, 1 ≤ p → p < n → p * k < (pages.get (p - 1)).total.toNat) : lastPage k pages = n := by
  refine Nat.le_antisymm (Nat.sInf_le ⟨h1, hlast⟩) (Nat.le_of_not_lt fun h => ?_)
  have hmem := Nat.sInf_mem (s := {p | 1 ≤ p ∧ (pages.get (p - 1)).total.toNat ≤ p * k}) ⟨n, h1, hlast⟩
  exact absurd hmem.2 (Nat.not_le.mpr (hmore _ hmem.1 h))

theorem pagesBefore_take {k : ℕ} : ∀ (n p : ℕ) (pages : Stream' Page),
    (∀ i < n, (p + i) * k < (pages.get i).total.toNat) → PagesBefore k p (pages.take n)
  | 0, p, _, _ => .nil p
  | n + 1, p, pages, hmore => by
    rw [Stream'.take_succ]
    refine .cons (hmore 0 (Nat.succ_pos n)) (pagesBefore_take n (p + 1) pages.tail fun i hi => ?_)
    rw [show p + 1 + i = p + (i + 1) by omega]
    exact hmore (i + 1) (by omega)

/-- The pages of an entity before its last page. -/
theorem pagesBefore_take_of_lt {k n : ℕ} {pages : Stream' Page} (h : n < lastPage k pages) :
    PagesBefore k 1 (pages.take n) := by
  refine pagesBefore_take n 1 pages fun i hi => ?_
  rw [Nat.add_comm 1 i]
  exact lt_total_of_lt_lastPage (Nat.le_add_left 1 i) (by omega)

/-- Up to its last page, an entity's pages are what they should be. -/
theorem pagesFrom_take_lastPage {k : ℕ} (hk : 0 < k) (pages : Stream' Page) :
    PagesFrom k 1 (pages.take (lastPage k pages)) := by
  obtain ⟨h1, hlast⟩ := lastPage_mem hk pages
  obtain ⟨n, hn⟩ : ∃ n, lastPage k pages = n + 1 := Nat.exists_eq_add_one.mpr h1
  rw [hn, Nat.add_sub_cancel] at hlast
  rw [hn, Stream'.take_succ']
  refine (pagesBefore_take_of_lt (hn ▸ Nat.lt_succ_self n)).concat ?_
  rw [Stream'.length_take, Nat.add_comm 1 n]
  exact hlast

/-! ## Servers that answer with pages -/

namespace Environment

variable {σ : Type}

/-- Nobody uses the abort handle. -/
def Quiet (env : Environment σ) : Prop := ∀ history, env.aborts history = false

/-- The server answers the requests with these pages, one after the other, and is in the last state then. -/
inductive Serves (env : Environment σ) : σ → List Request → List Page → σ → Prop
  | nil (s : σ) : Serves env s [] [] s
  | cons {s s' : σ} {request : Request} {page : Page} {requests : List Request} {pages : List Page} :
      (env.answer s request).1.page? = some page → Serves env (env.answer s request).2 requests pages s' →
        Serves env s (request :: requests) (page :: pages) s'

/-- What a server answers a list of requests with, it answers the front of the list with first. -/
theorem Serves.split {env : Environment σ} : ∀ {requests requests' : List Request} {pages pages' : List Page} {s s' : σ},
    requests.length = pages.length → env.Serves s (requests ++ requests') (pages ++ pages') s' →
      ∃ t, env.Serves s requests pages t ∧ env.Serves t requests' pages' s'
  | [], _, [], _, s, _, _, h => ⟨s, .nil s, h⟩
  | _ :: _, _, _ :: _, _, _, _, hlen, .cons hpage h => by
    obtain ⟨t, hfront, hback⟩ := split (Nat.succ.inj hlen) h
    exact ⟨t, .cons hpage hfront, hback⟩

theorem Serves.append {env : Environment σ} {requests requests' : List Request} {pages pages' : List Page} {s t s' : σ}
    (h : env.Serves s requests pages t) (h' : env.Serves t requests' pages' s') :
    env.Serves s (requests ++ requests') (pages ++ pages') s' := by
  induction h with
  | nil s => exact h'
  | cons hpage _ ih => exact .cons hpage (ih h')

/-- A server that has its replies in a row and gives the next one whatever it is asked. -/
def inTurn : Environment (Stream' Reply) where
  answer replies _ := (replies.head, replies.tail)
  aborts _ := false

theorem quiet_inTurn : inTurn.Quiet := fun _ => rfl

theorem serves_inTurn_of_lt : ∀ (requests : List Request) {replies : Stream' Reply} {pages : Stream' Page},
    (∀ n < requests.length, (replies.get n).page? = some (pages.get n)) →
      inTurn.Serves replies requests (pages.take requests.length) (replies.drop requests.length)
  | [], replies, _, _ => .nil replies
  | _ :: requests, _, _, h =>
    .cons (h 0 (Nat.succ_pos _)) (serves_inTurn_of_lt requests fun n hn => h (n + 1) (Nat.succ_lt_succ hn))

theorem serves_inTurn (requests : List Request) {replies : Stream' Reply} {pages : Stream' Page}
    (h : ∀ n, (replies.get n).page? = some (pages.get n)) :
    inTurn.Serves replies requests (pages.take requests.length) (replies.drop requests.length) :=
  serves_inTurn_of_lt requests fun n _ => h n

end Environment

end SeriesExport
