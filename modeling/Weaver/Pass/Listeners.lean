import Weaver.Jimple.Reference

/-!
# Listener Interfaces

A registry tells for listener interfaces which methods they call back.

## Main definitions

* `ListenerRegistry`, with `callbacks` and `contains`.
* `ListenerRegistry.androidView`: the listener interfaces of `android.view`.
-/

namespace Weaver

/-- Listener interfaces with their callbacks in order of declaration. -/
structure ListenerRegistry where
  /-- Ordered by interface, without repeated interfaces. -/
  entries : List (ClassName × List Signature)

namespace ListenerRegistry

/-- The registry of a list of entries; later ones of the same interface win. -/
def ofEntries (entries : List (ClassName × List Signature)) : ListenerRegistry :=
  { entries := sortedOfList (fun a b => a.1.compare b.1) entries }

/-- Whether an interface is registered. -/
def contains (r : ListenerRegistry) (interface : ClassName) : Bool :=
  r.entries.any fun e => e.1 == interface

/-- The callbacks of an interface; none if it is not registered. -/
def callbacks (r : ListenerRegistry) (interface : ClassName) : List Signature :=
  match r.entries.find? fun e => e.1 == interface with
  | some (_, sigs) => sigs
  | none => []

/-- The registered interfaces in order. -/
def interfaces (r : ListenerRegistry) : List ClassName :=
  r.entries.map Prod.fst

end ListenerRegistry

/-! ### The interfaces of `android.view` -/

namespace AndroidView

/-- A type of the package. -/
def type (name : String) : Ty :=
  .class_ ("android.view.".toList ++ name.toList)

/-- A callback. -/
def callback (ret : Ty) (name : String) (params : List Ty) : Signature :=
  { ret, name := name.toList, params }

/-- An interface of the package with its callbacks. -/
def interface (name : String) (callbacks : List Signature) : ClassName × List Signature :=
  (⟨"android.view.".toList ++ name.toList⟩, callbacks)

/-- Views. -/
def view : Ty :=
  type "View"

/-- Events of a pointer. -/
def motion : Ty :=
  type "MotionEvent"

/-- Entries of a menu. -/
def menuItem : Ty :=
  type "MenuItem"

/-- Textures that a surface shows. -/
def surface : Ty :=
  .class_ "android.graphics.SurfaceTexture".toList

/-- The listener interfaces of the package. -/
def listeners : List (ClassName × List Signature) :=
  [interface "ActionProvider$VisibilityListener"
     [callback .void "onActionProviderVisibilityChanged" [.boolean]],
   interface "GestureDetector$OnDoubleTapListener"
     [callback .boolean "onDoubleTap" [motion],
      callback .boolean "onDoubleTapEvent" [motion],
      callback .boolean "onSingleTapConfirmed" [motion]],
   interface "GestureDetector$OnGestureListener"
     [callback .boolean "onDown" [motion],
      callback .boolean "onFling" [motion, motion, .float, .float],
      callback .void "onLongPress" [motion],
      callback .boolean "onScroll" [motion, motion, .float, .float],
      callback .void "onShowPress" [motion],
      callback .boolean "onSingleTapUp" [motion]],
   interface "MenuItem$OnActionExpandListener"
     [callback .boolean "onMenuItemActionCollapse" [menuItem],
      callback .boolean "onMenuItemActionExpand" [menuItem]],
   interface "MenuItem$OnMenuItemClickListener"
     [callback .boolean "onMenuItemClick" [menuItem]],
   interface "ScaleGestureDetector$OnScaleGestureListener"
     [callback .boolean "onScale" [type "ScaleGestureDetector"],
      callback .boolean "onScaleBegin" [type "ScaleGestureDetector"],
      callback .void "onScaleEnd" [type "ScaleGestureDetector"]],
   interface "TextureView$SurfaceTextureListener"
     [callback .void "onSurfaceTextureAvailable" [surface, .int, .int],
      callback .boolean "onSurfaceTextureDestroyed" [surface],
      callback .void "onSurfaceTextureSizeChanged" [surface, .int, .int],
      callback .void "onSurfaceTextureUpdated" [surface]],
   interface "View$OnAttachStateChangeListener"
     [callback .void "onViewAttachedToWindow" [view],
      callback .void "onViewDetachedFromWindow" [view]],
   interface "View$OnClickListener" [callback .void "onClick" [view]],
   interface "View$OnCreateContextMenuListener"
     [callback .void "onCreateContextMenu"
       [type "ContextMenu", view, type "ContextMenu$ContextMenuInfo"]],
   interface "View$OnDragListener" [callback .boolean "onDrag" [view, type "DragEvent"]],
   interface "View$OnFocusChangeListener" [callback .void "onFocusChange" [view, .boolean]],
   interface "View$OnGenericMotionListener"
     [callback .boolean "onGenericMotion" [view, motion]],
   interface "View$OnHoverListener" [callback .boolean "onHover" [view, motion]],
   interface "View$OnKeyListener" [callback .boolean "onKey" [view, .int, type "KeyEvent"]],
   interface "View$OnLayoutChangeListener"
     [callback .void "onLayoutChange"
       [view, .int, .int, .int, .int, .int, .int, .int, .int]],
   interface "View$OnLongClickListener" [callback .boolean "onLongClick" [view]],
   interface "View$OnSystemUiVisibilityChangeListener"
     [callback .void "onSystemUiVisibilityChange" [.int]],
   interface "View$OnTouchListener" [callback .boolean "onTouch" [view, motion]],
   interface "ViewGroup$OnHierarchyChangeListener"
     [callback .void "onChildViewAdded" [view, view],
      callback .void "onChildViewRemoved" [view, view]],
   interface "ViewStub$OnInflateListener"
     [callback .void "onInflate" [type "ViewStub", view]],
   interface "ViewTreeObserver$OnDrawListener" [callback .void "onDraw" []],
   interface "ViewTreeObserver$OnGlobalFocusChangeListener"
     [callback .void "onGlobalFocusChanged" [view, view]],
   interface "ViewTreeObserver$OnGlobalLayoutListener" [callback .void "onGlobalLayout" []],
   interface "ViewTreeObserver$OnPreDrawListener" [callback .boolean "onPreDraw" []],
   interface "ViewTreeObserver$OnScrollChangedListener" [callback .void "onScrollChanged" []],
   interface "ViewTreeObserver$OnTouchModeChangeListener"
     [callback .void "onTouchModeChanged" [.boolean]],
   interface "ViewTreeObserver$OnWindowAttachListener"
     [callback .void "onWindowAttached" [], callback .void "onWindowDetached" []],
   interface "ViewTreeObserver$OnWindowFocusChangeListener"
     [callback .void "onWindowFocusChanged" [.boolean]]]

end AndroidView

/-- The registry of the listener interfaces of `android.view`. -/
def ListenerRegistry.androidView : ListenerRegistry :=
  .ofEntries AndroidView.listeners

end Weaver
