/-
Decoding what was encoded.  Whatever a document is decoded to can be encoded
again.  The new document is read only if it nests no deeper than the reader
follows.  If its numbers are read back too, and its typed objects are read back
from what their types write, decoding it gives the same instances.  Where one of
the three fails, a document need not settle.
-/
import RegionSnapshot.Proofs.Snapshot.Written

namespace RegionSnapshot

open Json

variable {α : Type}

namespace Snapshot

/-- Each instance of a document was read from an ordered element. -/
theorem exists_element_of_decode {registry : Registry α} {bytes : Bytes}
    {instances : List (Portable α)}
    (hdecode : decode registry bytes = .ok instances) {p : Portable α}
    (hp : p ∈ instances) :
    ∃ element, element.Ordered ∧
      Portable.ofElement registry Stage.standard element = .ok p := by
  obtain ⟨json, hspells, hread⟩ := decode_eq_ok_iff.1 hdecode
  obtain ⟨elements, helements, hread⟩ :=
    Portable.ofElements_eq_ok_iff.1 hread
  have hordered := hspells.ordered.elements? helements
  rw [orderedItems_iff] at hordered
  obtain ⟨element, helement, heq⟩ := Outcome.mem_of_mapM hread hp
  exact ⟨element, hordered element helement, heq⟩

/-- Encoding the instances and decoding the outcome gives instances with the
same content. -/
def Settles (registry : Registry α) (instances : List (Portable α)) : Prop :=
  ∃ bytes again, encodeInstances instances = .ok bytes ∧
    decode registry bytes = .ok again ∧
    again.map Portable.content = instances.map Portable.content

/-- A document that nests too deep is not read. -/
theorem exists_decode_error (registry : Registry α) {elements : List Json}
    (hordered : OrderedItems elements)
    (hdepth : depthLimit < (Json.arr elements).depth) :
    ∃ error, decode registry (document (.arr elements)) = .error error := by
  rw [decode_document registry hordered]
  cases hread : rereadElements? elements with
  | none => exact ⟨_, rfl⟩
  | some read =>
      have hread' : reread? depthLimit (.arr elements) = some (.arr read) := by
        rw [rereadElements?] at hread
        rw [reread?, if_neg (by decide), hread]
        rfl
      have hfits := depth_le_of_reread? hread'
      omega

/-- What is written of instances settles if what is written of each one is read
as an instance with the same content. -/
theorem settles_of_ofElement {registry : Registry α}
    {instances : List (Portable α)} {elements : List Json}
    (hrender : instances.mapM renderInstance = .ok elements)
    (hordered : OrderedItems elements)
    (hdepth : (Json.arr elements).depth ≤ depthLimit)
    (hnumbers : (Json.arr elements).NumbersReadBack)
    (h : ∀ p ∈ instances, ∀ element, renderInstance p = .ok element →
      ∃ q, Portable.ofElement registry Stage.standard element = .ok q ∧
        q.content = p.content) :
    Settles registry instances := by
  have hencode : encodeInstances instances =
      .ok (document (.arr elements)) := by
    rw [encodeInstances, renderInstances, hrender]
    rfl
  have hdecode : decode registry (document (.arr elements)) =
      elements.mapM (Portable.ofElement registry Stage.standard) := by
    have hroom : depthItems elements ≤ depthLimit - 1 := by
      rw [depth] at hdepth
      omega
    rw [decode_document registry hordered, rereadElements?,
      rereadItems?_eq_some hroom hnumbers]
  rw [orderedItems_iff] at hordered
  have hback : ∀ p ∈ instances, ∃ element q, element.Ordered ∧
      renderInstance p = .ok element ∧
      Portable.ofElement registry Stage.standard element = .ok q ∧
      q.content = p.content := by
    intro p hp
    obtain ⟨element, hmember, helement⟩ :=
      Outcome.exists_of_mem_mapM hrender hp
    obtain ⟨q, hread, hsame⟩ := h p hp element helement
    exact ⟨element, q, hordered element hmember, helement, hread, hsame⟩
  obtain ⟨written, again, -, hwritten, hread, hcontent⟩ :=
    exists_elements registry renderInstance Portable.content Portable.content
      hback
  rw [hrender] at hwritten
  cases hwritten
  exact ⟨_, again, hencode, hdecode.trans hread, hcontent⟩

/-- What is decoded can be encoded.  The outcome is refused if it nests too
deep; else, if its numbers are read back, decoding it gives instances with the
same content, if those with typed objects return. -/
theorem encodeInstances_of_decode {registry : Registry α}
    (hregistry : registry.KeepsOrder) {bytes : Bytes}
    {instances : List (Portable α)}
    (hdecode : decode registry bytes = .ok instances) :
    ∃ elements, renderInstances instances = .ok (.arr elements) ∧
      encodeInstances instances = .ok (document (.arr elements)) ∧
      (depthLimit < (Json.arr elements).depth →
        ∃ error, decode registry (document (.arr elements)) = .error error) ∧
      ((Json.arr elements).depth ≤ depthLimit →
        (Json.arr elements).NumbersReadBack →
        (∀ p ∈ instances, p.object.isSome = true →
          ∀ members, renderInstance p = .ok (.obj members) →
            p.Returns registry members) →
        Settles registry instances) := by
  have hwritten : ∀ p ∈ instances, ∃ members,
      renderInstance p = .ok (.obj members) ∧ (Json.obj members).Ordered ∧
      ((p.object.isSome = true → p.Returns registry members) →
        ∃ q, Portable.ofElement registry Stage.standard (.obj members) =
            .ok q ∧ q.content = p.content) := by
    intro p hp
    obtain ⟨element, hordered, hread⟩ := exists_element_of_decode hdecode hp
    exact exists_written hregistry hordered hread
  obtain ⟨elements, helements, hordered⟩ : ∃ elements,
      instances.mapM renderInstance = .ok elements ∧
      ∀ element ∈ elements, element.Ordered := by
    apply Outcome.exists_mapM
    intro p hp
    obtain ⟨members, hrender, hordered, -⟩ := hwritten p hp
    exact ⟨.obj members, hrender, hordered⟩
  rw [← orderedItems_iff] at hordered
  have hrender : renderInstances instances = .ok (.arr elements) := by
    rw [renderInstances, helements]
    rfl
  have hencode : encodeInstances instances =
      .ok (document (.arr elements)) := by
    rw [encodeInstances, hrender]
    rfl
  refine ⟨elements, hrender, hencode, exists_decode_error registry hordered, ?_⟩
  intro hdepth hnumbers hreturns
  apply settles_of_ofElement helements hordered hdepth hnumbers
  intro p hp element helement
  obtain ⟨members, hmembers, -, hback⟩ := hwritten p hp
  rw [hmembers] at helement
  cases helement
  exact hback fun hobject => hreturns p hp hobject members hmembers

/-- The form of an object that no instance holds. -/
def rowsForm : Json :=
  .obj [("id", .ofInt64 9), ("rows", .arr [.arr []])]

/-- An instance with this object. -/
def rowsInstance : Portable Datum :=
  .mk "app::Tree" (some (.str "rows"))
    [("id", .int 9), ("rows", .json (.arr [.arr []]))]
    (some (treeObject rowsForm))

theorem rowsInstance_returns (members : List (String × Json)) :
    rowsInstance.Returns treeRegistry members := by
  have hwritten : (treeObject rowsForm).WrittenAs treeRegistry rowsForm := by
    apply treeObject_writtenAs
    · simp only [rowsForm, Json.Ordered, OrderedMembers, OrderedItems,
        Entries.Sorted, ofInt64, and_true]
      decide
    · intro name hname
      rcases isMetadata_iff.1 hname with rfl | rfl <;> rfl
    · rfl
  refine ⟨?_, fun _ => ⟨_, rfl, rowsForm, hwritten⟩⟩
  intro name hname
  rcases isMetadata_iff.1 hname with rfl | rfl <;> rfl

theorem treeRegistry_keepsOrder : treeRegistry.KeepsOrder :=
  Registry.keepsOrder_empty.registerAs
    (ObjectType.keepsOrder_ofSchema "app::Tree" .json) "app::Tree"

/-- Two trees, of which an instance holds the first one only. -/
def treesDocument : List Json := [
  .obj [("@identifier", .ofInt64 4), ("@type", .str "app::Tree"),
    ("id", .str "own")],
  .obj [("@identifier", .str "rows"), ("@type", .str "app::Tree"),
    ("id", .ofInt64 9), ("rows", .arr [.arr []])]]

theorem encodeInstances_of_decode_trees :
    ∃ instances : List (Portable Datum), treeRegistry.KeepsOrder ∧
      decode treeRegistry (document (.arr treesDocument)) = .ok instances ∧
      Settles treeRegistry instances := by
  have hordered : OrderedItems treesDocument := by
    simp only [treesDocument, OrderedItems, Json.Ordered, OrderedMembers,
      Entries.Sorted, ofInt64, and_true]
    decide
  have hnumbers : (Json.arr treesDocument).NumbersReadBack := by
    simp [treesDocument, NumbersReadBack, NumbersReadBackItems,
      NumbersReadBackMembers, ofInt64, Number.reread?_int]
  have hread : rereadElements? treesDocument = some treesDocument :=
    rereadItems?_eq_some (by decide) hnumbers
  have hdecode : decode treeRegistry (document (.arr treesDocument)) =
      .ok [.mk "app::Tree" (some (.int 4)) [("id", .text "own")] none,
        rowsInstance] := by
    rw [decode_document _ hordered, hread]
    rfl
  obtain ⟨elements, hrender, -, -, hsettles⟩ :=
    encodeInstances_of_decode treeRegistry_keepsOrder hdecode
  have helements : Json.arr treesDocument = .arr elements :=
    Except.ok.inj (Eq.trans (by rfl) hrender)
  rw [← helements] at hsettles
  refine ⟨_, treeRegistry_keepsOrder, hdecode,
    hsettles (by decide) hnumbers ?_⟩
  intro p hp hobject members hmembers
  simp only [List.mem_cons, List.not_mem_nil, or_false] at hp
  rcases hp with rfl | rfl
  · cases hobject
  · exact rowsInstance_returns members

theorem not_settles {registry : Registry α} {instances : List (Portable α)}
    {bytes : Bytes} (hencode : encodeInstances instances = .ok bytes)
    (h : ∀ again, decode registry bytes = .ok again →
      again.map Portable.content ≠ instances.map Portable.content) :
    ¬Settles registry instances := by
  rintro ⟨other, again, hother, hdecode, hcontent⟩
  rw [hencode, Except.ok.injEq] at hother
  subst hother
  exact h again hdecode hcontent

/-- An object in an object, and so on. -/
def nestedObject : Nat → Json
  | 0 => .obj []
  | n + 1 => .obj [("a", nestedObject n)]

theorem depth_nestedObject (n : Nat) : (nestedObject n).depth = n + 1 := by
  induction n with
  | zero => rfl
  | succ n ih => simp [nestedObject, depth, depthMembers, ih]

theorem ordered_nestedObject (n : Nat) : (nestedObject n).Ordered := by
  induction n with
  | zero => exact ordered_emptyObject
  | succ n ih => exact ⟨List.pairwise_singleton _ _, ih, trivial⟩

theorem isNative_nestedObject (n : Nat) :
    (nestedObject n).isNative = true := by
  induction n with
  | zero => rfl
  | succ n ih =>
      simp [nestedObject, isNative, areNativeMembers, ih, typeMember,
        identifierMember]

theorem hasReserved_nestedObject (n : Nat) :
    (nestedObject n).hasReserved = false := by
  induction n with
  | zero => rfl
  | succ n ih =>
      simp [nestedObject, hasReserved, membersHaveReserved, namesReserved, ih,
        typeMember]

theorem numbersReadBack_nestedObject (n : Nat) :
    (nestedObject n).NumbersReadBack := by
  induction n with
  | zero => trivial
  | succ n ih => exact ⟨ih, trivial⟩

/-- A bare object that nests as deep as the reader follows is written in an
array, which nests too deep. -/
theorem nestedObject_unsettled : ∃ instances : List (Portable Datum),
    decode treeRegistry (document (nestedObject 126)) = .ok instances ∧
      ¬Settles treeRegistry instances := by
  have hordered := ordered_nestedObject 126
  have hspells : Spells (document (nestedObject 126)) (nestedObject 126) := by
    apply spells_document hordered
    · intro n
      exact Json.noConfusion
    · apply reread?_eq_some _ (numbersReadBack_nestedObject 126)
      rw [depth_nestedObject]
      exact Nat.le_refl _
  have hnative : ∀ element ∈ [nestedObject 126],
      ∃ p : Portable Datum, Portable.ofJson element = .ok p := by
    intro element helement
    rw [List.mem_singleton.1 helement]
    exact Field.exists_instanceOfMembers (isNative_nestedObject 126)
  have hitems := orderedItems_singleton hordered
  obtain ⟨instances, hread, hrender⟩ :=
    exists_renderInstances treeRegistry hitems hnative
  rw [List.map_singleton,
    withoutReserved_eq_self (hasReserved_nestedObject 126)] at hrender
  have hdecode : decode treeRegistry (document (nestedObject 126)) =
      .ok instances :=
    decode_eq_ok_iff.2 ⟨_, hspells,
      Portable.ofElements_eq_ok_iff.2 ⟨[nestedObject 126], rfl, hread⟩⟩
  have hencode : encodeInstances instances =
      .ok (document (.arr [nestedObject 126])) := by
    rw [encodeInstances, hrender]
    rfl
  have hdepth : depthLimit < (Json.arr [nestedObject 126]).depth := by
    rw [depth, depthItems, depth_nestedObject]
    decide
  obtain ⟨error, herror⟩ := exists_decode_error treeRegistry hitems hdepth
  refine ⟨instances, hdecode, not_settles hencode ?_⟩
  intro again hagain
  rw [herror] at hagain
  cases hagain

/-- The double that is written `5e+32`. -/
def roundDouble : Binary64 := ⟨5096006472832567708⟩

/-- The double next to it, written `5.0000000000000004e+32`. -/
def nextDouble : Binary64 := ⟨5096006472832567709⟩

theorem isFinite_roundDouble : roundDouble.isFinite = true := by
  decide +kernel

theorem isFinite_nextDouble : nextDouble.isFinite = true := by
  decide +kernel

theorem reread?_roundDouble :
    (Number.float roundDouble isFinite_roundDouble).reread? =
      some (.float nextDouble isFinite_nextDouble) := by
  decide +kernel

theorem reread?_nextDouble :
    (Number.float nextDouble isFinite_nextDouble).reread? =
      some (.float roundDouble isFinite_roundDouble) := by
  decide +kernel

def doubleElement (x : Binary64) (h : x.isFinite = true) : Json :=
  .obj [("x", .num (.float x h))]

def doubleInstance (x : Binary64) : Portable Datum :=
  .mk noClassName none [("x", .float x)] none

theorem ordered_doubleElement {x : Binary64} (h : x.isFinite = true) :
    (doubleElement x h).Ordered :=
  ⟨List.pairwise_singleton _ _, trivial, trivial⟩

theorem decode_doubleElement {x y : Binary64} (hx : x.isFinite = true)
    (hy : y.isFinite = true)
    (h : (Number.float x hx).reread? = some (.float y hy)) :
    decode treeRegistry (document (.arr [doubleElement x hx])) =
      .ok [doubleInstance y] := by
  have hread : rereadElements? [doubleElement x hx] =
      some [doubleElement y hy] := by
    simp [rereadElements?, rereadItems?, doubleElement, reread?,
      rereadMembers?, h, depthLimit]
  rw [decode_document _ (orderedItems_singleton (ordered_doubleElement hx)),
    hread]
  rfl

theorem encodeInstances_doubleInstance {x : Binary64}
    (hx : x.isFinite = true) :
    encodeInstances [doubleInstance x] =
      .ok (document (.arr [doubleElement x hx])) := by
  have hholds : (doubleInstance x).Holds [("x", .num (.float x hx))] :=
    Portable.holds_of_instanceOfMembers (List.pairwise_singleton _ _) rfl
  have hrender : renderInstance (doubleInstance x) =
      .ok (doubleElement x hx) :=
    hholds.renderInstance (ordered_doubleElement hx)
  rw [encodeInstances, renderInstances, List.mapM_cons, hrender]
  rfl

/-- A double that is not read back from its text is read as another one each
time. -/
theorem doubleElement_unsettled : ∃ instances : List (Portable Datum),
    decode treeRegistry (document
        (.arr [doubleElement roundDouble isFinite_roundDouble])) =
      .ok instances ∧ ¬Settles treeRegistry instances := by
  refine ⟨_, decode_doubleElement isFinite_roundDouble isFinite_nextDouble
    reread?_roundDouble, ?_⟩
  apply not_settles (encodeInstances_doubleInstance isFinite_nextDouble)
  intro again hagain hcontent
  rw [decode_doubleElement isFinite_nextDouble isFinite_roundDouble
    reread?_nextDouble, Except.ok.injEq] at hagain
  subst hagain
  simp [doubleInstance, Portable.content, Portable.fields, roundDouble,
    nextDouble] at hcontent

/-- A type that reads its value from the member `rows` and writes it as the
member `lines`. -/
def linesType : ObjectType Json where
  name := "app::Lines"
  read := fun json =>
    (json.get? "rows").elim (.error (.missingField "rows")) .ok
  write := fun value => .ok (.obj [("lines", value)])

def linesRegistry : Registry Json :=
  Registry.empty.register linesType

def linesElement (name : String) : Json :=
  .obj [("@type", .str "app::Lines"), (name, .arr [.arr []])]

/-- An object that its type does not read back from what it writes is not
decoded again. -/
theorem linesElement_unsettled : ∃ instances,
    decode linesRegistry (document (.arr [linesElement "rows"])) =
      .ok instances ∧ ¬Settles linesRegistry instances := by
  have hdecode : ∀ name, "@type" < name →
      decode linesRegistry (document (.arr [linesElement name])) =
        [linesElement name].mapM
          (Portable.ofElement linesRegistry Stage.standard) := by
    intro name hname
    have hordered : (linesElement name).Ordered :=
      ⟨List.pairwise_pair.2 hname, by simp [OrderedMembers, Json.Ordered,
        OrderedItems]⟩
    rw [decode_document _ (orderedItems_singleton hordered)]
    rfl
  refine ⟨_, (hdecode "rows" (by decide)).trans (by rfl), ?_⟩
  have hencode : encodeInstances [.mk "app::Lines" none
      [("lines", .json (.arr [.arr []]))] (some ⟨linesType, .arr [.arr []]⟩)] =
        .ok (document (.arr [linesElement "lines"])) := by
    rfl
  apply not_settles hencode
  intro again hagain
  rw [hdecode "lines" (by decide)] at hagain
  cases hagain

/-- A document need not settle: its elements may nest too deep in the array that
is written of them, a double may be read as another one, and a type may not read
what it writes. -/
theorem exists_unsettled :
    (∃ instances : List (Portable Datum),
      decode treeRegistry (document (nestedObject 126)) = .ok instances ∧
        ¬Settles treeRegistry instances) ∧
    (∃ instances : List (Portable Datum),
      decode treeRegistry (document
          (.arr [doubleElement roundDouble isFinite_roundDouble])) =
        .ok instances ∧ ¬Settles treeRegistry instances) ∧
    ∃ instances,
      decode linesRegistry (document (.arr [linesElement "rows"])) =
        .ok instances ∧ ¬Settles linesRegistry instances :=
  ⟨nestedObject_unsettled, doubleElement_unsettled, linesElement_unsettled⟩

end Snapshot
end RegionSnapshot
