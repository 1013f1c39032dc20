import FlightCaption.Expansion

/-!
# Rendering captions

A caption for one snapshot, from a template and the built-in tags; and renderers, which keep a
registry, a calendar and the overlay settings for many snapshots. A renderer reads its template
once, when it is made, and expands the same tokens for every snapshot.
-/

namespace FlightCaption

/-- The caption of a template with the built-in tags. -/
def render (template : String) (context : Context) : Caption :=
  expand context true (tokenize template)

/-- Settings for many captions, with the tokens of the overlay's template. -/
structure Renderer where
  registry : Registry
  calendar : Calendar
  overlay : Overlay
  template : List Token
  template_eq : template = tokenize overlay.template

namespace Renderer

/-! ## Making renderers -/

/-- A renderer with the tags of a registry. -/
def withRegistry (registry : Registry) (calendar : Calendar) (overlay : Overlay) : Renderer where
  registry
  calendar
  overlay
  template := tokenize overlay.template
  template_eq := rfl

/-- A renderer with the built-in tags. -/
def new (calendar : Calendar) (overlay : Overlay) : Renderer :=
  withRegistry .builtins calendar overlay

/-! ## Captions -/

/-- The data of a caption for a snapshot. -/
def context (renderer : Renderer) (snapshot : Snapshot) : Context :=
  { snapshot, calendar := renderer.calendar, overlay := renderer.overlay }

/-- The caption of the overlay's own template; handlers may nest passes up to `depth` levels. -/
def render? (depth : Nat) (renderer : Renderer) (snapshot : Snapshot) : Option Caption :=
  expand? depth renderer.registry (renderer.context snapshot) true renderer.template

/-- The caption of another template with the same settings. -/
def renderTemplate? (depth : Nat) (renderer : Renderer) (template : String)
    (snapshot : Snapshot) : Option Caption :=
  expand? depth renderer.registry (renderer.context snapshot) true (tokenize template)

/-- The tokens that a renderer keeps are those of the overlay's template. -/
theorem render?_eq_renderTemplate? (depth : Nat) (renderer : Renderer) (snapshot : Snapshot) :
    renderer.render? depth snapshot =
      renderer.renderTemplate? depth renderer.overlay.template snapshot := by
  rw [render?, renderTemplate?, renderer.template_eq]

/-- With the built-in tags every snapshot has a caption. -/
theorem isSome_render?_new (depth : Nat) (calendar : Calendar) (overlay : Overlay)
    (snapshot : Snapshot) : ((new calendar overlay).render? (depth + 1) snapshot).isSome :=
  isSome_expand?_builtins depth _ true _

end Renderer

end FlightCaption
