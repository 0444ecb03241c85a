import SeriesExport.Proofs.Documents
import SeriesExport.Proofs.Listing
import SeriesExport.Proofs.PageBounds

/-!
# A listing is complete

A server keeps a list of sources and gives the part of it that is on the page it is asked for, with the length of the
list as total (`Registry.Keeps`). Each source may have any aggregations and any other members, as far as these can be
read in some number of levels. If the levels are those that there are in a page (`Registry.sourceRoom`), a listing asks
for `pageCount` pages and has every source once and in its order (`Registry.listSources_of_keeps`). A member that goes
deeper ends the listing (`Registry.listSources_deep`).
-/

namespace SeriesExport

variable {σ : Type} {env : Environment σ}

/-- The server has given every reply of a run in one of its states. -/
theorem Dialogue.exists_answer_of_mem_exchanges {α : Type} : ∀ (d : Dialogue α) (w : World σ),
    ∀ exchange ∈ d.exchanges env w, ∃ s, exchange.2 = (env.answer s exchange.1).1
  | .done _, _, _, h => nomatch h
  | .token next, _, exchange, h => exists_answer_of_mem_exchanges (next _) _ exchange h
  | .refuse next, w, exchange, h => exists_answer_of_mem_exchanges next _ exchange h
  | .ask request next, w, exchange, h => by
    rcases List.mem_cons.mp h with rfl | h
    · exact ⟨w.server, rfl⟩
    · exact exists_answer_of_mem_exchanges (next _) _ exchange h
  | .report change next, w, exchange, h => exists_answer_of_mem_exchanges next _ exchange h
  | .aborted next, w, exchange, h => exists_answer_of_mem_exchanges (next w.cancelled) w exchange h

/-- Only the last of so many pages has all that there is. -/
theorem pageCount_eq {n k last : ℕ} (hk : 0 < k) (hmore : ∀ p, 1 ≤ p → p < last + 1 → p * k < n)
    (hlast : n ≤ (last + 1) * k) : pageCount n k = last + 1 := by
  refine Nat.le_antisymm (Nat.le_of_not_lt fun h => ?_) ?_
  · exact Nat.not_lt.mpr hlast (mul_lt_of_lt_pageCount hk (Nat.le_add_left 1 last) h)
  · match last with
    | 0 => exact one_le_pageCount n k
    | last + 1 => exact succ_le_pageCount hk (hmore (last + 1) (Nat.le_add_left 1 last) (Nat.lt_succ_self _))

namespace Registry

/-! ## Pages of a list of sources -/

/-- The pages of a list of sources, `k` sources on a page. -/
def pagesOf (k : ℕ) (sources : List DataSource) : Stream' RegistryPage := fun i =>
  ⟨UInt64.ofNat sources.length, (sources.drop (i * k)).take k⟩

/-- Pages that are put together are a part of the list. -/
theorem flatMap_take_pagesOf (k : ℕ) (sources : List DataSource) : ∀ n,
    ((pagesOf k sources).take n).flatMap RegistryPage.entries = sources.take (n * k)
  | 0 => by simp
  | n + 1 => by
    rw [Stream'.take_succ', List.flatMap_append, flatMap_take_pagesOf k sources n, List.flatMap_singleton,
      Nat.succ_mul, List.take_add]
    rfl

/-- How many levels of arrays and objects there may be inside a source on a page of the registry. -/
def sourceRoom : ℕ := Json.maxDepth - 3

/-- The server keeps a list of sources. Page `p` has the sources after the first `(p - 1) * k`, at most `k` of them,
where `k` is the size of a page. Members of a source that are not known can be read in `room` levels. -/
def Keeps (room : ℕ) (env : Environment σ) (config : Config) (token : Option String) (sources : List DataSource) :
    Prop :=
  ∀ (s : σ) (p : ℕ), 1 ≤ p → ∃ response root,
    (env.answer s (pageRequest config token p)).1 = .answered response ∧
    (200 ≤ response.status.toNat ∧ response.status.toNat < 300) ∧
    Json.Document.ofText response.body = ⟨root, true⟩ ∧
    RegistryPage.Written room root sources.length
      ((sources.drop ((p - 1) * config.registryPerPage.toNat)).take config.registryPerPage.toNat)

/-- A text whose outline is that of a page is decoded. -/
theorem decode_of_written {text : String} {root : Json.Outline} {total : ℕ} {entries : List DataSource}
    (htext : Json.Document.ofText text = ⟨root, true⟩) (h : RegistryPage.Written sourceRoom root total entries) :
    RegistryPage.decode text = .ok ⟨UInt64.ofNat total, entries⟩ := by
  have hroot : RegistryPage.shape.decoder Json.maxDepth root = .ok ⟨UInt64.ofNat total, entries⟩ :=
    RegistryPage.decoder_of_written h
  rw [RegistryPage.decode, Json.Decoder.decode, htext]
  show (do Json.require true (← RegistryPage.shape.decoder Json.maxDepth root)) = _
  rw [hroot]
  rfl

variable {config : Config} {token : Option String} {sources : List DataSource}

/-- Every reply for a page is the page. -/
theorem registryPage?_of_keeps (hkeeps : Keeps sourceRoom env config token sources) (s : σ) (i : ℕ) :
    (env.answer s (pageRequest config token (i + 1))).1.registryPage? =
      some ((pagesOf config.registryPerPage.toNat sources).get i) := by
  obtain ⟨response, root, hanswer, hsuccess, htext, hwritten⟩ := hkeeps s (i + 1) (Nat.le_add_left 1 i)
  rw [Nat.add_sub_cancel] at hwritten
  rw [hanswer, Reply.registryPage?, Reply.read?, if_pos hsuccess, decode_of_written htext hwritten]
  rfl

/-- The replies of a listing are the first of the pages. -/
theorem shown_of_keeps (hkeeps : Keeps sourceRoom env config token sources) {exchanges : List (Request × Reply)}
    (hrequests : exchanges.map Prod.fst = (List.range' 1 exchanges.length).map (pageRequest config token))
    (hanswers : ∀ exchange ∈ exchanges, ∃ s, exchange.2 = (env.answer s exchange.1).1) :
    Shown exchanges (pagesOf config.registryPerPage.toNat sources) := by
  refine List.ext_getElem (by simp) fun i hi hi' => ?_
  rw [List.length_map] at hi
  obtain ⟨s, hs⟩ := hanswers _ (List.getElem_mem hi)
  have hrequest : exchanges[i].1 = pageRequest config token (i + 1) := by
    have hi'' : i < (exchanges.map Prod.fst).length := by rwa [List.length_map]
    have hget := List.getElem_of_eq hrequests hi''
    rwa [List.getElem_map, List.getElem_map, List.getElem_range', Nat.one_mul, Nat.add_comm 1 i] at hget
  rw [List.getElem_map, List.getElem_map, hs, hrequest, registryPage?_of_keeps hkeeps, Stream'.take_get]

/-- **A listing is complete.** It has every source that the server keeps, once and in its order, with as many requests
as there are pages. -/
theorem listSources_of_keeps (hconfig : config.validate = .ok ()) {w : World σ} (hlength : sources.length < UInt64.size)
    (hkeeps : Keeps sourceRoom env config w.session.token sources) :
    let run := (listSources config).run env w
    run.1 = .ok sources ∧ run.2.requests = w.requests ++
      (List.range' 1 (pageCount sources.length config.registryPerPage.toNat)).map
        (pageRequest config w.session.token) := by
  intro run
  have hsize := Config.registryPerPage_ne_zero hconfig
  have hlisted := listed_listSources env hconfig w
  have hrequests := hlisted.turns.requests
  obtain ⟨n, hcount, hmore, hlast, hresult⟩ := hlisted.of_shown
    (shown_of_keeps hkeeps hrequests (Dialogue.exists_answer_of_mem_exchanges (listSources config) w))
  have htotal : ∀ i, ((pagesOf config.registryPerPage.toNat sources).get i).total.toNat = sources.length := fun _ =>
    UInt64.toNat_ofNat_of_lt' hlength
  have hk : 0 < config.registryPerPage.toNat := Nat.pos_of_ne_zero fun h => hsize (UInt64.toNat_inj.mp h)
  have hpages : pageCount sources.length config.registryPerPage.toNat = n + 1 := by
    refine pageCount_eq hk (fun p h1 hp => ?_) (by rw [← htotal n, Nat.add_comm n 1]; exact hlast)
    have hbefore := hmore (p - 1) (by omega)
    rwa [htotal, Nat.add_sub_cancel' h1] at hbefore
  refine ⟨?_, by rw [Dialogue.requests_run, hrequests, hcount, hpages]⟩
  show ((listSources config).run env w).1 = _
  rw [hresult, flatMap_take_pagesOf, List.nil_append]
  split
  · next hzero =>
    have hempty : sources.length = 0 := by rw [← htotal n, hzero]; rfl
    rw [List.eq_nil_of_length_eq_zero hempty]
  · rw [List.take_of_length_le (by rw [← htotal n, Nat.add_comm n 1]; exact hlast)]

/-- A server that reads the number of the page off the request. -/
def pagedServer (text : ℕ → String) : Environment Unit where
  answer _ request := (.answered ⟨200, text (Text.value ((request.param? "page").getD "").toList)⟩, ())
  aborts _ := false

theorem answer_pagedServer (text : ℕ → String) (s : Unit) (config : Config) (token : Option String) (p : ℕ) :
    (pagedServer text).answer s (pageRequest config token p) = (.answered ⟨200, text p⟩, ()) := by
  have hp : Text.value (((pageRequest config token p).param? "page").getD "").toList = p := by
    show Text.value p.repr.toList = p
    rw [Nat.toList_repr]
    exact Text.value_digits p
  show (Reply.answered ⟨200, text _⟩, ()) = _
  rw [hp]

/-! ### Three sources on two pages -/

/-- A source with an aggregation and another member, one with null for the aggregations, and one without. -/
def threeSources : List DataSource :=
  [⟨"a", [⟨"m", ["mean"], "1h", ""⟩], [("unit", .string "K")]⟩, ⟨"b", [], [("rank", .number (.integer 1))]⟩,
    ⟨"c", [], []⟩]

/-- The first two of the sources. -/
def firstSources : String :=
  "\x7b\"total\":3,\"entries\":[\x7b\"unit\":\"K\",\"aggregation\":[\x7b\"id\":\"m\",\"interval\":\"1h\"," ++
    "\"aggregates\":[\"mean\"]\x7d],\"id\":\"a\"\x7d,\x7b\"id\":\"b\",\"aggregation\":null,\"rank\":1\x7d]\x7d"

/-- The texts of their pages of two sources each. -/
def threeSourcesText : ℕ → String
  | 1 => firstSources
  | 2 => "\x7b\"entries\":[\x7b\"id\":\"c\"\x7d],\"total\":3\x7d"
  | _ => "\x7b\"total\":3\x7d"

open Json in
theorem keeps_threeSources : Keeps sourceRoom (pagedServer threeSourcesText) pairs none threeSources := by
  intro s p hp
  rw [answer_pagedServer]
  match p, hp with
  | 1, _ =>
    refine ⟨_, .object [(some "total", .number ⟨false, ['3'], none, none⟩),
      (some "entries", .array [.object [(some "unit", .text (some "K")), (some "aggregation", .array [.object [
        (some "id", .text (some "m")), (some "interval", .text (some "1h")),
        (some "aggregates", .array [.text (some "mean")] true)] true] true), (some "id", .text (some "a"))] true,
        .object [(some "id", .text (some "b")), (some "aggregation", .null),
          (some "rank", .number ⟨false, ['1'], none, none⟩)] true] true)] true, rfl, status_ok, ?_, ?_⟩
    · show Document.ofText firstSources = _
      cbv
    · refine .object rfl (by decide +kernel) (.given (.array (.cons ?_ (.cons ?_ .nil)))) (by decide)
      · refine .object rfl (.given (.array (.cons ?_ .nil))) rfl rfl
        exact .object rfl (.given rfl) rfl .missing (by decide)
      · exact .object rfl (.given .null) rfl rfl
  | 2, _ =>
    refine ⟨_, .object [(some "entries", .array [.object [(some "id", .text (some "c"))] true] true),
      (some "total", .number ⟨false, ['3'], none, none⟩)] true, rfl, status_ok, ?_, ?_⟩
    · show Document.ofText "\x7b\"entries\":[\x7b\"id\":\"c\"\x7d],\"total\":3\x7d" = _
      cbv
    · exact .object rfl (by decide +kernel) (.given (.array (.cons (.object rfl .missing rfl rfl) .nil))) (by decide)
  | p + 3, _ =>
    refine ⟨_, .object [(some "total", .number ⟨false, ['3'], none, none⟩)] true, rfl, status_ok, ?_, ?_⟩
    · show Document.ofText "\x7b\"total\":3\x7d" = _
      cbv
    · have hrest : threeSources.drop ((p + 3 - 1) * pairs.registryPerPage.toNat) = [] :=
        List.drop_of_length_le (Nat.le_trans (by decide : threeSources.length ≤ 2 * 2)
          (Nat.mul_le_mul_right 2 (Nat.le_add_left 2 p)))
      rw [hrest]
      exact .object rfl (by decide +kernel) .missing (by decide)

/-- Two requests for the three sources. -/
theorem listSources_of_keeps_threeSources :
    let run := (listSources pairs).run (pagedServer threeSourcesText) { server := () }
    run.1 = .ok threeSources ∧ run.2.requests.map (fun request => (request.path, request.param? "page")) =
      [("/registry", some "1"), ("/registry", some "2")] := by
  intro run
  have h := listSources_of_keeps (by rfl : pairs.validate = .ok ()) (w := { server := () })
    (by decide : threeSources.length < UInt64.size) keeps_threeSources
  refine ⟨h.1, ?_⟩
  rw [h.2]
  decide

/-! ### Arrays in arrays -/

open Json

/-- An array in an array in an array, `n` of them around the innermost. -/
def nested : ℕ → Outline
  | 0 => .array [] true
  | n + 1 => .array [nested n] true

def nestedValue : ℕ → Json
  | 0 => .array []
  | n + 1 => .array [nestedValue n]

/-- There must be a level for each of the arrays. -/
theorem value_nested : ∀ room n : ℕ,
    (nested n).value room = if n < room then .ok (nestedValue n) else .error .malformed
  | 0, n => by cases n <;> rfl
  | room + 1, 0 => rfl
  | room + 1, n + 1 => by
    have ih := value_nested room n
    show (do require true (Json.array (← values room [nested n]))) = _
    simp only [values, ih, Nat.add_lt_add_iff_right]
    split <;> rfl

theorem scan_replicate (c : Char) {token : Token} (hspace : isSpace c = false)
    (hlexeme : ∀ rest, lexeme? c rest = some (token, 0)) (rest : List Char) : ∀ n,
    scan 0 (List.replicate n c ++ rest) = List.replicate n token ++ scan 0 rest
  | 0 => rfl
  | n + 1 => by
    rw [List.replicate_succ, List.cons_append, scan, hspace, hlexeme]
    exact congrArg (token :: ·) (scan_replicate c hspace hlexeme rest n)

theorem awaitValue_nested : ∀ (n : ℕ) (stack : List Frame) (rest : List Token),
    awaitValue stack (List.replicate (n + 1) .openArray ++ (List.replicate (n + 1) .closeArray ++ rest)) =
      continueWith (nested n) stack rest
  | 0, _, _ => by simp [awaitValue, nested]
  | n + 1, stack, rest => by
    have hclose : List.replicate (n + 2) Token.closeArray ++ rest =
        List.replicate (n + 1) .closeArray ++ .closeArray :: rest := by
      rw [List.replicate_succ', List.append_assoc, List.singleton_append]
    rw [hclose]
    exact awaitValue_nested n (.array [] :: stack) (.closeArray :: rest)

/-- A page with one source that has another member. -/
def deepRoot (n : ℕ) : Outline :=
  .object [(some "total", .number ⟨false, ['1'], none, none⟩),
    (some "entries", .array [.object [(some "id", .text (some "a")), (some "x", nested n)] true] true)] true

/-- The text before the arrays, and that behind them. -/
def deepHead : String := "\x7b\"total\":1,\"entries\":[\x7b\"id\":\"a\",\"x\":"

def deepTail : String := "\x7d]\x7d"

def deepText (n : ℕ) : String :=
  deepHead ++ String.ofList (List.replicate (n + 1) '[' ++ List.replicate (n + 1) ']') ++ deepTail

theorem scan_head (rest : List Char) :
    scan 0 (deepHead.toList ++ rest) =
      .openObject :: .text (some "total") :: .colon :: .number ⟨false, ['1'], none, none⟩ :: .comma ::
        .text (some "entries") :: .colon :: .openArray :: .openObject :: .text (some "id") :: .colon ::
        .text (some "a") :: .comma :: .text (some "x") :: .colon :: scan 0 rest := by
  cbv

theorem ofText_deepText (n : ℕ) : Document.ofText (deepText n) = ⟨deepRoot n, true⟩ := by
  have hopen : ∀ rest, lexeme? '[' rest = some (.openArray, 0) := fun _ => rfl
  have hclose : ∀ rest, lexeme? ']' rest = some (.closeArray, 0) := fun _ => rfl
  have htail : scan 0 deepTail.toList = [.closeObject, .closeArray, .closeObject] := by cbv
  rw [Document.ofText, tokens, deepText, String.toList_append, String.toList_append, String.toList_ofList,
    List.append_assoc, List.append_assoc, scan_head, scan_replicate '[' rfl hopen, scan_replicate ']' rfl hclose, htail]
  show awaitValue [.object [(some "id", .text (some "a"))] (some "x"), .array [],
    .object [(some "total", .number ⟨false, ['1'], none, none⟩)] (some "entries")] _ = _
  rw [awaitValue_nested]
  rfl

/-- The source on the page. -/
def deepSource (n : ℕ) : DataSource := ⟨"a", [], [("x", nestedValue n)]⟩

/-- A registry that has only this source. -/
def deepPages (n : ℕ) : ℕ → String
  | 1 => deepText n
  | _ => "\x7b\"total\":1\x7d"

theorem keeps_deep {n room : ℕ} (h : n < room) : Keeps room (pagedServer (deepPages n)) {} none [deepSource n] := by
  have htotal : (⟨false, ['1'], none, none⟩ : NumberLiteral).value? = some (.integer (1 : ℕ)) := by decide +kernel
  intro s p hp
  rw [answer_pagedServer]
  obtain _ | _ | p := p
  · cases hp
  · have hvalues : memberValues room [(some "x", nested n)] = .ok [("x", nestedValue n)] := by
      rw [memberValues, value_nested, if_pos h]
      rfl
    refine ⟨_, deepRoot n, rfl, status_ok, ofText_deepText n,
      .object rfl htotal (.given (.array (.cons ?_ .nil))) fun _ hmember => by cases hmember⟩
    exact .object rfl .missing hvalues rfl
  · refine ⟨_, .object [(some "total", .number ⟨false, ['1'], none, none⟩)] true, rfl, status_ok, ?_, ?_⟩
    · show Document.ofText "\x7b\"total\":1\x7d" = _
      cbv
    · have hrest : [deepSource n].drop ((p + 2 - 1) * 100) = [] :=
        List.drop_of_length_le (by rw [List.length_singleton]; omega)
      show RegistryPage.Written room _ 1 (([deepSource n].drop ((p + 2 - 1) * 100)).take 100)
      rw [hrest]
      exact .object rfl htotal .missing fun _ hmember => by cases hmember

/-- Arrays that are too deep for the levels are refused, and with them the page. -/
theorem decoder_deepRoot {room n : ℕ} (h : room ≤ n) :
    RegistryPage.shape.decoder (room + 3) (deepRoot n) = .error .malformed := by
  have hvalue : (nested n).value room = .error .malformed := by rw [value_nested, if_neg (Nat.not_lt.mpr h)]
  have hsource : DataSource.shape.decoder (room + 1)
      (.object [(some "id", .text (some "a")), (some "x", nested n)] true) = .error .malformed := by
    show (do DataSource.shape.close (← require true
      (← DataSource.shape.readMembers room ⟨some "a", none, []⟩ [(some "x", nested n)]))) = _
    rw [Shape.readMembers, DataSource.member_of_not_mem (by decide)]
    simp only [hvalue]
    rfl
  have hentries : Decoder.nullable (Decoder.list DataSource.shape.decoder) (room + 2)
      (.array [.object [(some "id", .text (some "a")), (some "x", nested n)] true] true) = .error .malformed := by
    show some <$> (do require true (← [_].mapM (DataSource.shape.decoder (room + 1)))) = _
    rw [List.mapM_cons, hsource]
    rfl
  show (do RegistryPage.shape.close (← require true
    (← RegistryPage.shape.readMembers (room + 2) ⟨some 1, none⟩ [(some "entries", _)]))) = _
  simp only [Shape.readMembers, RegistryPage.shape, fill, hentries]
  rfl

/-- **Nothing may be deeper.** -/
theorem listSources_deep : ({} : Config).validate = .ok () ∧
    Keeps 125 (pagedServer (deepPages 124)) {} none [deepSource 124] ∧
    ((listSources {}).run (pagedServer (deepPages 124)) { server := () }).1 = .error (.undecodable .malformed) := by
  refine ⟨rfl, keeps_deep (by decide), ?_⟩
  have hdecode : RegistryPage.decode (deepText 124) = .error .malformed := by
    rw [RegistryPage.decode, Decoder.decode, ofText_deepText]
    show (do require true (← RegistryPage.shape.decoder (124 + 3) (deepRoot 124))) = _
    rw [decoder_deepRoot (Nat.le_refl 124)]
    rfl
  show ((listFrom {} { perPage := ({} : Config).registryPerPage } []).run _ _).1 = _
  rw [listFrom_eq, Client.run_get_bind, request_eq (at_start {})]
  show ((receive _ _ _ (Client.verdict _ ((pagedServer (deepPages 124)).answer () _).1)).run _ _).1 = _
  rw [answer_pagedServer]
  show ((receive _ _ _ (.ok (deepText 124))).run _ _).1 = _
  rw [receive, hdecode]
  rfl

end Registry

end SeriesExport
