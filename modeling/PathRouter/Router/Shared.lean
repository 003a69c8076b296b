import PathRouter.Router

/-!
A router that can be replaced while it is in use. A snapshot is a value of its own, so whoever holds one
keeps using it after a replacement.
-/

namespace PathRouter

structure SharedRouter (α : Type) where
  current : Router α

namespace SharedRouter

variable {α : Type}

def load (shared : SharedRouter α) : Router α :=
  shared.current

def store (_ : SharedRouter α) (router : Router α) : SharedRouter α :=
  ⟨router⟩

def replace (shared : SharedRouter α) (router : Router α) : Router α × SharedRouter α :=
  (shared.current, shared.store router)

end SharedRouter

end PathRouter
