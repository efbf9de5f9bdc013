import LayeredSchema.Proofs.Schema.TypedReading

/-!
# What strict mode emits

Strict mode reads a composition over the defaults as a typed schema before it is emitted. Every key
of every fragment has to be recognized, whoever wins it, but of the values only those of the last
layers count, `exists_ofMapping_compose_iff`. What is emitted is the composition as it is. If strict
mode refuses it, the first key that is not recognized is blamed, in the order of the fragments; a
value is blamed only if there is no such key, in the order of the composition.
-/

namespace LayeredSchema

namespace Composition

variable {fragments : List Fragment}

/-! ## Keys and values of the layers -/

end Composition

end LayeredSchema
