/-
**Explanations of attributes and groups.**

Who asks why an attribute or a group applies is told of its own conditions, under all values of the
assignment.

* `Catalog.explainAttribute` — the explanation of what an id stands for;
* `Catalog.explainGroup` — the explanation of what a name stands for.
-/

import PageAttributes.Trace.Format
import PageAttributes.Visibility.Catalog

namespace PageAttributes.Catalog

/-- The explanation of the first attribute with an id, if there is one. -/
def explainAttribute (catalog : Catalog) (id : String) (assignment : Assignment) :
    Option String :=
  (catalog.attribute? id).map fun declared => Condition.explain assignment declared.conditions

/-- The explanation of the first group with a name, if there is one. -/
def explainGroup (catalog : Catalog) (name : String) (assignment : Assignment) : Option String :=
  (catalog.group? name).map fun gathered => Condition.explain assignment gathered.conditions

end PageAttributes.Catalog
