import SignIn.Proofs.Callback

/-!
# Targets that start with a slash

A target that starts with a single slash names nobody: whoever the request's host names is asked.
A target that starts with two slashes, the second of either kind, names a host of its own, and then
the request's host counts for nothing.
-/

namespace SignIn.Callback

/-- Whether a target that starts with a slash goes on with a second one. -/
def namesHost (target : String) : Bool :=
  match target.toList with
  | _ :: second :: _ => Url.isSlash .web second
  | _ => false

/-- The root of a host is a URL of the web with segments. -/
theorem base_eq_ok {host : String} {root : Url} (base_eq : base host = .ok root) :
    Url.ofString ("http://" ++ host ++ "/") = .ok root ∧ root.scheme = Url.web ∧
      ∃ own, root.path = .rooted own := by
  unfold base at base_eq
  split at base_eq
  · rename_i url read_eq
    cases base_eq
    have text_eq : ("http://" ++ host ++ "/").toList =
        Url.web ++ ':' :: ('/' :: '/' :: (host.toList ++ ['/'])) := by
      simp [Url.web]
    have parsed := read_eq
    rw [Url.ofString, text_eq, Url.parse_web] at parsed
    exact ⟨read_eq, Url.readFromAuthority_eq_ok parsed⟩
  · cases base_eq

/-- A target that starts with a slash is always resolved. -/
theorem url_of_slash {message : Message} {given : String} {rest : List Char}
    (target_eq : target message = .ok given) (given_eq : given.toList = '/' :: rest) :
    url message = resolve message given := by
  have no_url : Url.ofString given = .error .noBase := by
    rw [Url.ofString, given_eq, Url.parse_slash]
  simp only [url, target_eq, no_url]

theorem resolve_eq_ok {message : Message} {given : String} {place : Url}
    (resolve_eq : resolve message given = .ok place) :
    ∃ host root, message.singleOr "host" defaultHost = .ok host ∧ base host = .ok root ∧
      root.join given.toList = .ok place := by
  unfold resolve at resolve_eq
  split at resolve_eq
  · cases resolve_eq
  · rename_i host host_eq
    split at resolve_eq
    · cases resolve_eq
    · rename_i root root_eq
      split at resolve_eq
      · rename_i url join_eq
        cases resolve_eq
        exact ⟨host, root, host_eq, root_eq, join_eq⟩
      · cases resolve_eq

theorem base_of_ofString {host : String} {root : Url}
    (read_eq : Url.ofString ("http://" ++ host ++ "/") = .ok root) : base host = .ok root := by
  simp only [base, read_eq]

/-- The characters after the first slash of a target. -/
theorem single_slash_of_namesHost {given : String} {rest : List Char}
    (given_eq : given.toList = '/' :: rest) (unnamed : namesHost given = false) :
    ∀ char, rest.head? = some char → Url.isSlash .web char = false := by
  intro char head
  cases rest with
  | nil => cases head
  | cons second more =>
    cases head
    simpa [namesHost, given_eq] using unnamed

theorem double_slash_of_namesHost {given : String} {rest : List Char}
    (given_eq : given.toList = '/' :: rest) (named : namesHost given = true) :
    ∃ second more, rest = second :: more ∧ Url.isSlash .web second = true := by
  cases rest with
  | nil => simp [namesHost, given_eq] at named
  | cons second more => exact ⟨second, more, rfl, by simpa [namesHost, given_eq] using named⟩

/-- Behind a single slash the root's machine is asked, and the resolution cannot fail. -/
theorem join_of_single_slash {message : Message} {given host : String} {root : Url}
    (target_eq : target message = .ok given) (origin : given.toList.head? = some '/')
    (unnamed : namesHost given = false) (base_eq : base host = .ok root) :
    ∃ place, root.join given.toList = .ok place ∧ place.scheme = root.scheme ∧
      place.authority = root.authority := by
  obtain ⟨rest, given_eq⟩ := List.head?_eq_some_iff.1 origin
  obtain ⟨-, -, own, path_eq⟩ := base_eq_ok base_eq
  have unbroken : ∀ char ∈ rest, Url.isBreak char = false := by
    intro char member
    refine Url.isBreak_of_not_isBlank (not_isBlank_of_target target_eq char ?_)
    rw [given_eq]
    exact List.mem_cons_of_mem _ member
  rw [given_eq, Url.join_single_slash path_eq unbroken (single_slash_of_namesHost given_eq unnamed)]
  exact ⟨_, rfl, rfl, rfl⟩

/-- Behind two slashes the target is a URL of the web but for its scheme. -/
theorem ofString_of_double_slash {given host : String} {root place : Url}
    (origin : given.toList.head? = some '/') (named : namesHost given = true)
    (base_eq : base host = .ok root) (join_eq : root.join given.toList = .ok place) :
    Url.ofString ("http:" ++ given) = .ok place ∧ place.scheme = Url.web := by
  obtain ⟨rest, given_eq⟩ := List.head?_eq_some_iff.1 origin
  obtain ⟨second, more, rfl, slash⟩ := double_slash_of_namesHost given_eq named
  obtain ⟨-, scheme_eq, own, path_eq⟩ := base_eq_ok base_eq
  rw [given_eq] at join_eq
  have text_eq : ("http:" ++ given).toList = Url.web ++ ':' :: ('/' :: second :: more) := by
    simp [Url.web, given_eq]
  have parsed := Url.join_double_slash path_eq scheme_eq slash join_eq
  rw [Url.ofString, text_eq]
  refine ⟨parsed, ?_⟩
  rw [Url.parse_web] at parsed
  exact (Url.readFromAuthority_eq_ok parsed).1

/-- A request whose target starts with a slash is for a URL of the web, or its message is malformed.
The machine that is asked is the one that the request's host names, exactly if the target does not
start with two slashes or names the same machine behind them; with one slash the request fails only
if its headers or its host are wrong. -/
theorem origin_form_host {message : Message} {given : String}
    (target_eq : target message = .ok given) (origin : given.toList.head? = some '/') :
    (∀ error, url message = .error error → ∃ reason, error = .malformedMessage reason) ∧
    (∀ place, url message = .ok place → ∃ host root,
      message.singleOr "host" "localhost" = .ok host ∧
      Url.ofString ("http://" ++ host ++ "/") = .ok root ∧ place.scheme = "http".toList ∧
      (namesHost given = true → Url.ofString ("http:" ++ given) = .ok place) ∧
      (place.authority = root.authority ↔ namesHost given = false ∨
        ∃ own, Url.ofString ("http:" ++ given) = .ok own ∧ own.authority = root.authority)) ∧
    (namesHost given = false → ∀ host root, message.singleOr "host" "localhost" = .ok host →
      Url.ofString ("http://" ++ host ++ "/") = .ok root → ∃ place, url message = .ok place) := by
  obtain ⟨rest, given_eq⟩ := List.head?_eq_some_iff.1 origin
  rw [url_of_slash target_eq given_eq]
  refine ⟨fun error failed => isMalformed_of_resolve failed, fun place resolved => ?_,
    fun unnamed host root host_eq root_eq => ?_⟩
  · obtain ⟨host, root, host_eq, base_eq, join_eq⟩ := resolve_eq_ok resolved
    obtain ⟨root_eq, root_scheme, -⟩ := base_eq_ok base_eq
    refine ⟨host, root, host_eq, root_eq, ?_⟩
    cases named : namesHost given with
    | false =>
      obtain ⟨found, found_eq, scheme_eq, authority_eq⟩ :=
        join_of_single_slash target_eq origin named base_eq
      rw [join_eq] at found_eq
      cases found_eq
      exact ⟨scheme_eq.trans root_scheme, by simp, by simp [authority_eq]⟩
    | true =>
      obtain ⟨own_eq, scheme_eq⟩ := ofString_of_double_slash origin named base_eq join_eq
      exact ⟨scheme_eq, fun _ => own_eq, by simp [own_eq]⟩
  · have base_eq := base_of_ofString root_eq
    obtain ⟨place, join_eq, -⟩ := join_of_single_slash target_eq origin unnamed base_eq
    refine ⟨place, ?_⟩
    simp only [resolve, defaultHost, host_eq, base_eq, join_eq]

/-- An ordinary callback without a host is for the local machine. -/
theorem origin_form_host_localhost :
    let message : Message := ⟨["GET /cb?code=1 HTTP/1.1"], []⟩
    target message = .ok "/cb?code=1" ∧ "/cb?code=1".toList.head? = some '/' ∧
      ∃ place host root, url message = .ok place ∧
        message.singleOr "host" "localhost" = .ok host ∧
        Url.ofString ("http://" ++ host ++ "/") = .ok root ∧
        place.scheme = "http".toList ∧ place.authority = root.authority := by
  intro message
  have target_eq : target message = .ok "/cb?code=1" := rfl
  have origin : "/cb?code=1".toList.head? = some '/' := rfl
  have unnamed : namesHost "/cb?code=1" = false := rfl
  obtain ⟨root, root_eq⟩ : ∃ root, Url.ofString ("http://" ++ "localhost" ++ "/") = .ok root :=
    exists_of_isOk (by decide +kernel)
  obtain ⟨-, found, resolves⟩ := origin_form_host target_eq origin
  obtain ⟨place, place_eq⟩ := resolves unnamed "localhost" root (by decide +kernel) root_eq
  obtain ⟨host, root, host_eq, root_eq, scheme_eq, -, authority_iff⟩ := found place place_eq
  exact ⟨target_eq, origin, place, host, root, place_eq, host_eq, root_eq, scheme_eq,
    authority_iff.2 (.inl unnamed)⟩

/-- The machine that is asked can be another one than the one that the request's host names. -/
theorem origin_form_host_elsewhere :
    let message : Message :=
      ⟨["GET //evil.example/cb?code=1 HTTP/1.1", "Host: app.example.com"], []⟩
    ∃ root place, target message = .ok "//evil.example/cb?code=1" ∧
      message.singleOr "host" "localhost" = .ok "app.example.com" ∧
      Url.ofString ("http://" ++ "app.example.com" ++ "/") = .ok root ∧
      url message = .ok place ∧ place.authority ≠ root.authority := by
  intro message
  let root : Url := ⟨"http".toList, some ⟨[], none, some (.name "app.example.com".toList), none⟩,
    false, .rooted [[]], none, none⟩
  let place : Url := ⟨"http".toList, some ⟨[], none, some (.name "evil.example".toList), none⟩,
    false, .rooted ["cb".toList], some "code=1".toList, none⟩
  have root_eq : Url.ofString ("http://" ++ "app.example.com" ++ "/") = .ok root := by
    decide +kernel
  have place_eq : url message = .ok place := by decide +kernel
  exact ⟨root, place, rfl, by decide +kernel, root_eq, place_eq, by decide⟩

end SignIn.Callback
