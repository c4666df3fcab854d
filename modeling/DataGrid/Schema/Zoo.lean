import DataGrid.Schema.Registry

/-!
# The zoo

An example schema: flamingos with their keepers, the zoos of the keepers, and the vaccinations of
the flamingos. Deleted flamingos stay in their table.

## Main definitions

* `DataGrid.Zoo.entities` — the entities.
* `DataGrid.Zoo.registry` — the registry of all of them.
-/

namespace DataGrid.Zoo

/-- Flamingos. -/
def flamingos : Entity where
  name := "flamingos"
  softDelete := some "deleted_at"
  columns := [
    ⟨"id", .integer⟩, ⟨"name", .text⟩, ⟨"species", .text⟩, ⟨"weight", .float⟩,
    ⟨"is_hungry", .boolean⟩, ⟨"last_vaccinated_on", .date⟩, ⟨"preferred_food_types", .json⟩,
    ⟨"custom_properties", .json⟩, ⟨"keeper_id", .integer⟩, ⟨"created_at", .timestamp⟩,
    ⟨"deleted_at", .timestamp⟩]
  relations := [
    .belongingTo "keeper" "keepers" "keeper_id",
    .havingMany "vaccinations" "vaccinations" "flamingo_id"]

/-- Keepers. -/
def keepers : Entity where
  name := "keepers"
  columns := [⟨"id", .integer⟩, ⟨"name", .text⟩, ⟨"zoo_id", .integer⟩]
  relations := [
    .belongingTo "zoo" "zoos" "zoo_id",
    .havingMany "flamingos" "flamingos" "keeper_id"]

/-- Zoos. -/
def zoos : Entity where
  name := "zoos"
  columns := [⟨"id", .integer⟩, ⟨"name", .text⟩, ⟨"city", .text⟩]

/-- Vaccinations. -/
def vaccinations : Entity where
  name := "vaccinations"
  columns := [
    ⟨"id", .integer⟩, ⟨"flamingo_id", .integer⟩, ⟨"vaccine", .text⟩, ⟨"given_on", .date⟩]

/-- All entities of the zoo. -/
def entities : List Entity := [flamingos, keepers, zoos, vaccinations]

/-- The registry of the zoo. -/
def registry : Except SchemaFault Registry := Registry.ofEntities entities

end DataGrid.Zoo
