import CloudMetrics.Config.Settings

/-!
# Layers of values

Layers are put over each other entry by entry. An entry changes the member that its path starts at, and no
other; one that names a member as a whole replaces it, unless tables are merged. So the last variable that
is about a setting decides about it, whatever the document and the variables before it say.
-/
namespace CloudMetrics.Config

namespace Value

variable {root v : Value} {m name : String} {ks : List Key} {layer : List (String × Value)}

/-- The member that the path of a name starts at. -/
def target (name : String) : String :=
  match readPath name with
  | .member m :: _ => lower m
  | _ => name

theorem exists_readPath_eq (name : String) :
    ∃ m ks, readPath name = .member m :: ks ∧ target name = lower m := by
  have h : ∃ m ks, readPath name = .member m :: ks := by
    unfold readPath
    dsimp only
    split
    · exact ⟨_,_,rfl⟩
    · split
      · exact ⟨_,_,rfl⟩
      · exact ⟨_,_,rfl⟩
  obtain ⟨m,ks,hp⟩ := h
  exact ⟨m,ks,hp,by rw [target,hp]⟩

theorem member?_table_put (entries : List (String × Value)) (key name : String) (v : Value) :
    (table (Json.put key v entries)).member? name = if name = key then some v else entries.lookup name :=
  Json.lookup_put key name v entries

theorem member?_put_of_ne (h : name ≠ lower m) :
    (put v (.member m :: ks) root).member? name = root.member? name := by
  cases ks with
  | nil =>
    rw [put]
    cases v <;> rw [putMember,member?_table_put,if_neg h] <;> first | rfl | nofun
  | cons k ks =>
    rw [put,member?_table_put,if_neg h]
    · rfl
    · nofun

/-- What is no table replaces a member. -/
theorem member?_put_self (hv : ∀ es, v ≠ .table es) :
    (put v [.member m] root).member? (lower m) = some v := by
  rw [put,putMember,member?_table_put,if_pos rfl]
  exact hv

theorem overlay_append (root : Value) (a b : List (String × Value)) :
    root.overlay (a ++ b) = (root.overlay a).overlay b := List.foldl_append

theorem overlay_cons (root : Value) (e : String × Value) (layer : List (String × Value)) :
    root.overlay (e :: layer) = (put e.2 (readPath e.1) root).overlay layer := rfl

/-- A layer leaves the members that none of its entries is about. -/
theorem member?_overlay_of_forall (h : ∀ e ∈ layer, target e.1 ≠ name) :
    (root.overlay layer).member? name = root.member? name := by
  induction layer generalizing root with
  | nil => rfl
  | cons e layer ih =>
    obtain ⟨m,ks,hp,ht⟩ := exists_readPath_eq e.1
    have hne : name ≠ lower m := fun he => h e List.mem_cons_self (ht.trans he.symm)
    rw [overlay_cons,ih fun e' he' => h e' (List.mem_cons_of_mem _ he'),hp,member?_put_of_ne hne]

end Value

open Value

/-- The member of the settings that a variable is about. -/
def subject? (name : String) : Option String :=
  if (lower name).startsWith variableStem then
    some (target (String.ofList ((lower name).toList.drop variableStem.length)))
  else none

/-- The environment holds a variable, and none that comes later is about the same setting. -/
def Gives (env : Environment) (name value : String) : Prop :=
  ∃ before after, env = before ++ (name,value) :: after ∧ ∀ v ∈ after, subject? v.1 ≠ subject? name

theorem target_of_mem_environmentEntries {env : Environment} {e : String × Value}
    (h : e ∈ environmentEntries env) : ∃ v ∈ env, subject? v.1 = some (target e.1) := by
  obtain ⟨⟨name,value⟩,hv,he⟩ := List.mem_filterMap.mp h
  refine ⟨_,hv,?_⟩
  dsimp only at he
  rw [subject?]
  split at he
  · next hs =>
    cases he
    rw [if_pos hs]
  · cases he

theorem readVariable_ne_table (key value : String) (es : List (String × Value)) :
    readVariable key value ≠ .table es := by
  unfold readVariable
  split
  · nofun
  · split
    · nofun
    · split
      · nofun
      · nofun
      · split <;> nofun

/-- A variable that is named as one whole member. -/
structure IsVariableOf (name key : String) : Prop where
  stem : (lower name).startsWith variableStem
  rest : String.ofList ((lower name).toList.drop variableStem.length) = key
  path : readPath key = [.member key]
  lower : lower key = key

namespace IsVariableOf

variable {name key value : String} {env : Environment}

theorem subject?_eq (h : IsVariableOf name key) : subject? name = some key := by
  rw [subject?,if_pos h.stem,h.rest,target,h.path]
  exact congrArg some h.lower

theorem environmentEntries_cons (h : IsVariableOf name key) :
    environmentEntries ((name,value) :: env) = (key,readVariable key value) :: environmentEntries env := by
  have hentry : (fun (p : String × String) =>
      if (Config.lower p.1).startsWith variableStem then
        some (String.ofList ((Config.lower p.1).toList.drop variableStem.length),
          readVariable (String.ofList ((Config.lower p.1).toList.drop variableStem.length)) p.2)
      else none) (name,value) = some (key,readVariable key value) := by
    simp only [h.stem,h.rest,if_true]
  exact List.filterMap_cons_some hentry

/-- The value of the last variable that is about a member is what the member holds. -/
theorem member?_overlay (h : IsVariableOf name key) (hg : Gives env name value) (root : Value) :
    (root.overlay (environmentEntries env)).member? key = some (readVariable key value) := by
  obtain ⟨before,after,rfl,hlast⟩ := hg
  have hafter : ∀ e ∈ environmentEntries after, target e.1 ≠ key := by
    intro e he htarget
    obtain ⟨v,hv,hs⟩ := target_of_mem_environmentEntries he
    rw [htarget,← h.subject?_eq] at hs
    exact hlast v hv hs
  have hsplit : environmentEntries (before ++ (name,value) :: after) =
      environmentEntries before ++ environmentEntries ((name,value) :: after) := List.filterMap_append
  have hself : (put (readVariable key value) [.member key] (root.overlay (environmentEntries before))).member?
      (Config.lower key) = some (readVariable key value) := member?_put_self (readVariable_ne_table key value)
  rw [h.lower] at hself
  rw [hsplit,overlay_append,h.environmentEntries_cons,overlay_cons,member?_overlay_of_forall hafter,h.path]
  exact hself

end IsVariableOf

namespace Settings

/-- Each setting is read from its member, if there is one. -/
structure ReadFrom (v : Value) (s : Settings) : Prop where
  token : setting v "token" Value.asText? ({} : Settings).token = some s.token
  secret : setting v "secret" Value.asText? ({} : Settings).secret = some s.secret
  webaddr : setting v "webaddr" Value.asText? ({} : Settings).webaddr = some s.webaddr
  webpath : setting v "webpath" Value.asText? ({} : Settings).webpath = some s.webpath
  zones : setting v "zones" Value.asTexts? ({} : Settings).zones = some s.zones
  apiRootUrl : setting v "api_root_url" Value.asText? ({} : Settings).apiRootUrl = some s.apiRootUrl
  apiTimeoutSecs :
    setting v "api_timeout_secs" Value.asNat? ({} : Settings).apiTimeoutSecs = some s.apiTimeoutSecs
  disabledCollectors :
    setting v "disabled_collectors" Value.asTexts? ({} : Settings).disabledCollectors = some s.disabledCollectors
  debug : setting v "debug" Value.asBool? ({} : Settings).debug = some s.debug

theorem readFrom_of_ofValue? {v : Value} {s : Settings} (h : ofValue? v = some s) : ReadFrom v s := by
  simp only [ofValue?,Option.bind_eq_bind,Option.bind_eq_some_iff,Option.pure_def,Option.some.injEq] at h
  obtain ⟨token,htoken,secret,hsecret,webaddr,hwebaddr,webpath,hwebpath,zones,hzones,root,hroot,
    timeout,htimeout,disabled,hdisabled,debug,hdebug,rfl⟩ := h
  exact ⟨htoken,hsecret,hwebaddr,hwebpath,hzones,hroot,htimeout,hdisabled,hdebug⟩

theorem exists_readFrom_of_ofLayers {document : Option (List (String × Value))} {env : Environment}
    {s : Settings} (h : ofLayers document env = .ok s) :
    ∃ root : Value, ReadFrom (root.overlay (environmentEntries env)) s := by
  unfold ofLayers at h
  dsimp only at h
  split at h
  · next s' hs =>
    cases h
    exact ⟨_,readFrom_of_ofValue? hs⟩
  · cases h

theorem setting_of_member? {α : Type} {v x : Value} {name : String} {read : Value → Option α} {default : α}
    (h : v.member? name = some x) : setting v name read default = read x := by
  rw [setting,h]

end Settings

end CloudMetrics.Config
