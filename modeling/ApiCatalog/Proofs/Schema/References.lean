import ApiCatalog.Proofs.Performing
import ApiCatalog.Schema.Resolve

/-!
# The references of a schema

`references_mapReferences`: replacing the references of a node is replacing the members of the list of its
references, in any monad. So what the resolver makes of a schema can be read off a list
(`run_mapM_canonicalReference`): it succeeds exactly when every reference that is not local has a key, the
references become the canonical URLs of these keys, and the keys come out in the order of the references.
-/

namespace ApiCatalog

/-! ## Nodes and lists -/

namespace SchemaNode
variable {m : Type → Type} [Monad m] [LawfulMonad m] (f : String → m String)

theorem toList_mapReference (reference : Option String) :
    Option.toList <$> mapReference f reference = reference.toList.mapM f := by
  cases reference <;> simp [mapReference]

mutual

/-- The references of a node after their replacement are the replaced references, and the effects are those of
replacing them one after the other. -/
theorem references_mapReferences (node : SchemaNode) :
    references <$> node.mapReferences f = node.references.mapM f := by
  obtain ⟨title, description, type, format, properties, required, items, values, reference⟩ := node
  have hreference := toList_mapReference f reference
  have hproperties := propertyReferences_mapPropertyReferences properties
  have hitems := itemReferences_mapItemReferences items
  simp only [references, List.mapM_append, ← hreference, ← hproperties, ← hitems]
  simp [mapReferences, references]

theorem propertyReferences_mapPropertyReferences (properties : Option (List (String × SchemaNode))) :
    propertyReferences <$> mapPropertyReferences f properties =
      (propertyReferences properties).mapM f := by
  cases properties with
  | none => simp [mapPropertyReferences, propertyReferences]
  | some members =>
    have hmembers := memberReferences_mapMemberReferences members
    simp only [propertyReferences, ← hmembers]
    simp [mapPropertyReferences, propertyReferences]

theorem memberReferences_mapMemberReferences (members : List (String × SchemaNode)) :
    memberReferences <$> mapMemberReferences f members = (memberReferences members).mapM f := by
  cases members with
  | nil => simp [mapMemberReferences, memberReferences]
  | cons member rest =>
    obtain ⟨name, node⟩ := member
    have hnode := references_mapReferences node
    have hrest := memberReferences_mapMemberReferences rest
    simp only [memberReferences, List.mapM_append, ← hnode, ← hrest]
    simp [mapMemberReferences, memberReferences]

theorem itemReferences_mapItemReferences (items : Option SchemaNode) :
    itemReferences <$> mapItemReferences f items = (itemReferences items).mapM f := by
  cases items with
  | none => simp [mapItemReferences, itemReferences]
  | some node =>
    have hnode := references_mapReferences node
    simp only [itemReferences, ← hnode]
    simp [mapItemReferences, itemReferences]

end

end SchemaNode

/-! ## Keys of references -/

theorem hasPointerFragment_canonicalUrl (url : String) :
    hasPointerFragment (canonicalUrl url) = hasPointerFragment url := by
  unfold canonicalUrl
  split
  · rfl
  · next hopen =>
    unfold hasPointerFragment
    rw [String.toList_push, List.dropWhile_append]
    cases hrest : url.toList.dropWhile (· ≠ fragmentMarker) with
    | nil => simp
    | cons c fragment =>
      -- without a fragment the marker would be the end of the URL
      have hfragment : fragment ≠ [] := by
        rintro rfl
        have hmarker : c = fragmentMarker := by
          have hhead := List.head_dropWhile_not (p := (· ≠ fragmentMarker)) (l := url.toList) (by rw [hrest]; simp)
          simp only [hrest, List.head_cons] at hhead
          simpa using hhead
        have hparts := List.takeWhile_append_dropWhile (p := (· ≠ fragmentMarker)) (l := url.toList)
        rw [hrest, hmarker] at hparts
        exact hopen (by rw [← hparts, List.getLast?_concat])
      cases fragment with
      | nil => exact absurd rfl hfragment
      | cons d rest => rfl

namespace SchemaKey

@[simp] theorem documentLocation_url (key : SchemaKey) : documentLocation key.url = key.location := by
  apply String.toList_inj.1
  have hall : ∀ c ∈ key.location.toList, decide (c ≠ fragmentMarker) = true := fun c hc =>
    decide_eq_true fun hmarker => key.unmarked (hmarker ▸ hc)
  rw [documentLocation, String.toList_ofList, toList_url, List.takeWhile_append_of_pos hall]
  simp

@[simp] theorem hasPointerFragment_url (key : SchemaKey) : hasPointerFragment key.url = false := by
  have hall : ∀ c ∈ key.location.toList, decide (c ≠ fragmentMarker) = true := fun c hc =>
    decide_eq_true fun hmarker => key.unmarked (hmarker ▸ hc)
  rw [hasPointerFragment, toList_url, List.dropWhile_append_of_pos hall]
  simp

theorem exists_ofUrl? {url : String} (h : hasPointerFragment url = false) :
    ∃ key, ofUrl? url = some key ∧ key.url = canonicalUrl url := by
  have hkey : ofUrl? url = some ⟨documentLocation url, marker_not_mem_documentLocation url⟩ := by
    rw [ofUrl?, if_neg (by simp [h])]
  exact ⟨_, hkey, url_of_ofUrl? hkey⟩

theorem ofUrl?_of_pointed {url : String} (h : hasPointerFragment url = true) : ofUrl? url = none := by
  rw [ofUrl?, if_pos h]

theorem ofUrl?_url (key : SchemaKey) : ofUrl? key.url = some key := by
  obtain ⟨other, hother, hurl⟩ := exists_ofUrl? (hasPointerFragment_url key)
  rw [canonicalUrl_url] at hurl
  rw [hother, url_injective hurl]

theorem isBlank_url (key : SchemaKey) : Text.isBlank key.url = false := by
  have hmarker : Text.isWhiteSpace fragmentMarker = false := by decide
  simp [Text.isBlank, toList_url, hmarker]

theorem hasPointerFragment_of_ofUrl? {url : String} {key : SchemaKey} (h : ofUrl? url = some key) :
    hasPointerFragment url = false := by
  unfold ofUrl? at h
  split at h
  · cases h
  · next hplain => simpa using hplain

theorem ofReference_ok {location reference : String} {key : SchemaKey} :
    ofReference location reference = .ok key ↔
      ∃ absolute, Url.absolute? location reference = some absolute ∧ ofUrl? absolute = some key := by
  unfold ofReference
  cases habsolute : Url.absolute? location reference with
  | none => simp
  | some absolute => cases hkey : ofUrl? absolute <;> simp [hkey]

/-- The key that a reference in a document leads to; none for a local reference, and none when it has no key. -/
def referred? (location reference : String) : Option SchemaKey :=
  if isLocalReference reference then none else (ofReference location reference).toOption

theorem referred?_eq_some {location reference : String} {key : SchemaKey} :
    referred? location reference = some key ↔
      isLocalReference reference = false ∧ ofReference location reference = .ok key := by
  unfold referred?
  cases isLocalReference reference with
  | true => simp
  | false => cases ofReference location reference <;> simp [Except.toOption]

def Resolvable (location reference : String) : Prop :=
  isLocalReference reference = true ∨ ∃ key, ofReference location reference = .ok key

end SchemaKey

/-! ## What the resolver makes of references -/

def canonicalForm (location reference : String) : String :=
  ((SchemaKey.referred? location reference).map SchemaKey.url).getD reference

theorem run_canonicalReference {location reference : String} (h : SchemaKey.Resolvable location reference)
    (keys : List SchemaKey) :
    (canonicalReference location reference).run keys =
      .ok (canonicalForm location reference, keys ++ (SchemaKey.referred? location reference).toList) := by
  show canonicalReference location reference keys = _
  unfold canonicalReference canonicalForm SchemaKey.referred?
  cases hlocal : isLocalReference reference with
  | true => simp
  | false =>
    obtain ⟨key, hkey⟩ : ∃ key, SchemaKey.ofReference location reference = .ok key := by
      simpa [SchemaKey.Resolvable, hlocal] using h
    simp [hkey, Except.map, Except.toOption]

theorem resolvable_of_run {location reference : String} {keys : List SchemaKey} {found : String × List SchemaKey}
    (h : (canonicalReference location reference).run keys = .ok found) : SchemaKey.Resolvable location reference := by
  have hrun : canonicalReference location reference keys = .ok found := h
  unfold canonicalReference at hrun
  split at hrun
  · next hlocal => exact .inl hlocal
  · rcases hkey : SchemaKey.ofReference location reference with fault | key
    · rw [hkey] at hrun
      cases hrun
    · exact .inr ⟨key, hkey⟩

theorem run_mapM_canonicalReference {location : String} {references : List String}
    (h : ∀ reference ∈ references, SchemaKey.Resolvable location reference) (keys : List SchemaKey) :
    (references.mapM (canonicalReference location)).run keys =
      .ok (references.map (canonicalForm location),
        keys ++ references.filterMap (SchemaKey.referred? location)) := by
  induction references generalizing keys with
  | nil =>
    rw [List.mapM_nil, List.map_nil, List.filterMap_nil, List.append_nil]
    rfl
  | cons reference rest ih =>
    have hfirst := run_canonicalReference (h reference List.mem_cons_self) keys
    have hrest := ih fun other hother => h other (List.mem_cons_of_mem _ hother)
    have hkeys : keys ++ (reference :: rest).filterMap (SchemaKey.referred? location) =
        keys ++ (SchemaKey.referred? location reference).toList ++ rest.filterMap (SchemaKey.referred? location) := by
      cases hkey : SchemaKey.referred? location reference <;> simp [hkey]
    rw [List.mapM_cons, List.map_cons, hkeys]
    exact run_bind_ok.2 ⟨_, _, hfirst, run_bind_ok.2 ⟨_, _, hrest _, rfl⟩⟩

theorem resolvable_of_run_mapM {location : String} {references : List String} {keys : List SchemaKey}
    {found : List String × List SchemaKey}
    (h : (references.mapM (canonicalReference location)).run keys = .ok found) :
    ∀ reference ∈ references, SchemaKey.Resolvable location reference := by
  induction references generalizing keys found with
  | nil => simp
  | cons reference rest ih =>
    rw [List.mapM_cons] at h
    obtain ⟨form, between, hfirst, h⟩ := run_bind_ok.1 h
    obtain ⟨forms, final, hrest, -⟩ := run_bind_ok.1 h
    exact List.forall_mem_cons.2 ⟨resolvable_of_run hfirst, ih hrest⟩

/-- When all references of a node are rewritten, they all lead somewhere, they are in canonical form afterwards, and the
keys come out in their order. -/
theorem found_of_run {location : String} {node root : SchemaNode} {nested : List SchemaKey}
    (h : (node.mapReferences (canonicalReference location)).run [] = .ok (root, nested)) :
    (∀ reference ∈ node.references, SchemaKey.Resolvable location reference) ∧
      root.references = node.references.map (canonicalForm location) ∧
      nested = node.references.filterMap (SchemaKey.referred? location) := by
  have hlist := congrArg (StateT.run · ([] : List SchemaKey))
    (SchemaNode.references_mapReferences (canonicalReference location) node)
  simp only [StateT.run_map, h] at hlist
  have hall := resolvable_of_run_mapM hlist.symm
  rw [run_mapM_canonicalReference hall] at hlist
  have hpair : (root.references, nested) = (node.references.map (canonicalForm location),
      [] ++ node.references.filterMap (SchemaKey.referred? location)) := Except.ok.inj hlist
  rw [Prod.mk.injEq, List.nil_append] at hpair
  exact ⟨hall, hpair.1, hpair.2⟩

end ApiCatalog
