import RegEngine.Library.Value

/-
  The column names, KDE names and event types that the CSV
  readers know, and the split of an input lot cell
  (`app/sandbox/csv_parser.py`).

  Main declarations:
    * `Sandbox.csvColumnMap`
    * `Sandbox.cteTypeAliases`
    * `Sandbox.splitLotCodes`
-/

--------
-- Columns
--------

namespace RegEngine

namespace Sandbox

/- `_CSV_COLUMN_MAP`: the columns of the event itself. -/
def csvColumnMap : List (String × String) :=
  [("cte_type", "cte_type"), ("event_type", "cte_type"),
    ("type", "cte_type"), ("cte", "cte_type"),
    ("event", "cte_type"),
    ("traceability_lot_code", "traceability_lot_code"),
    ("tlc", "traceability_lot_code"),
    ("lot_code", "traceability_lot_code"),
    ("lot", "traceability_lot_code"),
    ("lot_number", "traceability_lot_code"),
    ("lot_no", "traceability_lot_code"),
    ("lot_id", "traceability_lot_code"),
    ("trace_lot_code", "traceability_lot_code"),
    ("batch", "traceability_lot_code"),
    ("batch_number", "traceability_lot_code"),
    ("batch_no", "traceability_lot_code"),
    ("batch_id", "traceability_lot_code"),
    ("lot_#", "traceability_lot_code"),
    ("vendor_lot#", "traceability_lot_code"),
    ("vendor_lot", "traceability_lot_code"),
    ("product_description", "product_description"),
    ("product", "product_description"),
    ("product_name", "product_description"),
    ("description", "product_description"),
    ("commodity", "product_description"),
    ("commodity_variety", "product_description"),
    ("commodity/variety", "product_description"),
    ("item_desc", "product_description"),
    ("item", "product_description"),
    ("item_description", "product_description"),
    ("sku", "product_description"),
    ("sku_description", "product_description"),
    ("material", "product_description"),
    ("material_description", "product_description"),
    ("quantity", "quantity"), ("qty", "quantity"),
    ("amount", "quantity"), ("count", "quantity"),
    ("units", "quantity"), ("weight", "quantity"),
    ("volume", "quantity"), ("wt", "quantity"),
    ("unit_of_measure", "unit_of_measure"),
    ("unit", "unit_of_measure"), ("uom", "unit_of_measure"),
    ("measure", "unit_of_measure"),
    ("unit_measure", "unit_of_measure"),
    ("location_gln", "location_gln"), ("gln", "location_gln"),
    ("facility_gln", "location_gln"),
    ("site_gln", "location_gln"),
    ("location_name", "location_name"),
    ("location", "location_name"), ("facility", "location_name"),
    ("facility_name", "location_name"),
    ("site", "location_name"), ("site_name", "location_name"),
    ("loc_name", "location_name"), ("plant", "location_name"),
    ("plant_name", "location_name"),
    ("warehouse", "location_name"), ("timestamp", "timestamp"),
    ("date", "timestamp"), ("event_date", "timestamp"),
    ("event_time", "timestamp"),
    ("event_timestamp", "timestamp"), ("datetime", "timestamp"),
    ("date_time", "timestamp"), ("supplier", "location_name"),
    ("supplier_name", "location_name"),
    ("vendor", "location_name"),
    ("vendor_name", "location_name")]

/- `_KDE_FIELD_ALIASES`: the columns of known KDEs. -/
def kdeFieldAliases : List (String × String) :=
  [("harvest_date", "harvest_date"),
    ("harvested", "harvest_date"),
    ("date_harvested", "harvest_date"),
    ("harvest_dt", "harvest_date"),
    ("date_picked", "harvest_date"),
    ("pick_date", "harvest_date"),
    ("cooling_date", "cooling_date"),
    ("cooled_date", "cooling_date"),
    ("date_cooled", "cooling_date"),
    ("cool_date", "cooling_date"),
    ("packing_date", "packing_date"),
    ("pack_date", "packing_date"),
    ("date_packed", "packing_date"),
    ("packed_date", "packing_date"),
    ("landing_date", "landing_date"),
    ("land_date", "landing_date"),
    ("date_landed", "landing_date"), ("ship_date", "ship_date"),
    ("shipped_date", "ship_date"), ("date_shipped", "ship_date"),
    ("shipping_date", "ship_date"), ("ship_dt", "ship_date"),
    ("receive_date", "receive_date"),
    ("received_date", "received_date"),
    ("date_received", "receive_date"),
    ("receiving_date", "receive_date"),
    ("receipt_date", "receive_date"),
    ("rcvd_dt", "receive_date"),
    ("transformation_date", "transformation_date"),
    ("transform_date", "transformation_date"),
    ("date_transformed", "transformation_date"),
    ("ship_from_location", "ship_from_location"),
    ("ship_from", "ship_from_location"),
    ("shipped_from", "ship_from_location"),
    ("from_location", "ship_from_location"),
    ("origin", "ship_from_location"),
    ("origin_location", "ship_from_location"),
    ("source_location", "ship_from_location"),
    ("from_facility", "ship_from_location"),
    ("from_site", "ship_from_location"),
    ("ship_to_location", "ship_to_location"),
    ("ship_to", "ship_to_location"),
    ("shipped_to", "ship_to_location"),
    ("to_location", "ship_to_location"),
    ("destination", "ship_to_location"),
    ("destination_location", "ship_to_location"),
    ("dest_location", "ship_to_location"),
    ("dest", "ship_to_location"),
    ("to_facility", "ship_to_location"),
    ("to_site", "ship_to_location"),
    ("ship_from_gln", "ship_from_gln"),
    ("from_gln", "ship_from_gln"),
    ("origin_gln", "ship_from_gln"),
    ("ship_to_gln", "ship_to_gln"), ("to_gln", "ship_to_gln"),
    ("destination_gln", "ship_to_gln"),
    ("dest_gln", "ship_to_gln"),
    ("receiving_location", "receiving_location"),
    ("received_at", "receiving_location"),
    ("receive_location", "receiving_location"),
    ("reference_document", "reference_document"),
    ("ref_doc", "reference_document"),
    ("reference_doc", "reference_document"),
    ("document", "reference_document"),
    ("doc_number", "reference_document"),
    ("doc_no", "reference_document"),
    ("bol", "reference_document"),
    ("bol_number", "reference_document"),
    ("bill_of_lading", "reference_document"),
    ("bol#", "reference_document"),
    ("invoice", "reference_document"),
    ("invoice_number", "reference_document"),
    ("invoice_no", "reference_document"),
    ("po", "reference_document"),
    ("po_number", "reference_document"),
    ("purchase_order", "reference_document"),
    ("po#", "reference_document"), ("carrier", "carrier"),
    ("carrier_name", "carrier"), ("transport", "carrier"),
    ("transport_reference", "carrier"), ("trucker", "carrier"),
    ("freight_carrier", "carrier"),
    ("harvester_business_name", "harvester_business_name"),
    ("harvester_business_phone", "harvester_business_phone"),
    ("harvester", "harvester_business_name"),
    ("harvester_name", "harvester_business_name"),
    ("grower", "harvester_business_name"),
    ("grower_name", "harvester_business_name"),
    ("farm", "harvester_business_name"),
    ("farm_name", "harvester_business_name"),
    ("tlc_source_reference", "tlc_source_reference"),
    ("tlc_source", "tlc_source_reference"),
    ("lot_code_source", "tlc_source_reference"),
    ("source_reference", "tlc_source_reference"),
    ("assigned_by", "tlc_source_reference"),
    ("immediate_previous_source", "immediate_previous_source"),
    ("previous_source", "immediate_previous_source"),
    ("prev_source", "immediate_previous_source"),
    ("ips", "immediate_previous_source"),
    ("source", "immediate_previous_source"),
    ("input_lot_codes", "input_lot_codes"),
    ("input_traceability_lot_codes", "input_lot_codes"),
    ("input_tlcs", "input_lot_codes"),
    ("input_lots", "input_lot_codes"),
    ("source_lots", "input_lot_codes"),
    ("source_tlcs", "input_lot_codes"),
    ("temperature", "temperature"), ("temp", "temperature"),
    ("temp_c", "temperature_celsius"),
    ("temp_°c", "temperature_celsius"),
    ("temp_celsius", "temperature_celsius"),
    ("temperature_c", "temperature_celsius"),
    ("temperature_°c", "temperature_celsius"),
    ("temperature_celsius", "temperature_celsius"),
    ("cooling_temperature_c", "cooling_temperature_celsius"),
    ("cooling_temperature_°c", "cooling_temperature_celsius"),
    ("cooling_temperature_celsius", "cooling_temperature_celsius"),
    ("temp_f", "temperature_fahrenheit"),
    ("temp_°f", "temperature_fahrenheit"),
    ("temp_fahrenheit", "temperature_fahrenheit"),
    ("temperature_f", "temperature_fahrenheit"),
    ("temperature_°f", "temperature_fahrenheit"),
    ("temperature_fahrenheit", "temperature_fahrenheit"),
    ("cooling_temperature_f", "cooling_temperature_fahrenheit"),
    ("cooling_temperature_°f", "cooling_temperature_fahrenheit"),
    ("cooling_temperature_fahrenheit", "cooling_temperature_fahrenheit"),
    ("temperature_unit", "temperature_unit"),
    ("temp_unit", "temperature_unit"),
    ("field_name", "field_name"), ("field", "field_name"),
    ("growing_area", "field_name")]

/- `_CTE_TYPE_ALIASES`. -/
def cteTypeAliases : List (String × String) :=
  [("harvest", "harvesting"), ("harvested", "harvesting"),
    ("pick", "harvesting"), ("picked", "harvesting"),
    ("h", "harvesting"), ("cool", "cooling"),
    ("cooled", "cooling"), ("pre_cool", "cooling"),
    ("precool", "cooling"), ("c", "cooling"),
    ("packing", "initial_packing"),
    ("packed", "initial_packing"), ("pack", "initial_packing"),
    ("ip", "initial_packing"),
    ("flbr", "first_land_based_receiving"),
    ("first_receiver", "first_land_based_receiving"),
    ("landing", "first_land_based_receiving"),
    ("dock", "first_land_based_receiving"), ("ship", "shipping"),
    ("shipped", "shipping"), ("shipment", "shipping"),
    ("dispatch", "shipping"), ("s", "shipping"),
    ("receive", "receiving"), ("received", "receiving"),
    ("receipt", "receiving"), ("recv", "receiving"),
    ("rcv", "receiving"), ("r", "receiving"),
    ("transform", "transformation"),
    ("transformed", "transformation"),
    ("process", "transformation"),
    ("processed", "transformation"),
    ("processing", "transformation"),
    ("production", "transformation"), ("mfg", "transformation"),
    ("manufacturing", "transformation"), ("t", "transformation")]

/- `_KDE_FIELDS`. -/
def kdeFields : List String :=
  kdeFieldAliases.map Prod.snd

/- `INPUT_LOT_CODES_KDE`. -/
def inputLotCodesKde : String :=
  "input_lot_codes"

--------
-- Input Lots
--------

/- The pieces of a text between the signs that separate. -/
def pieces (isSep : Char → Bool) (text : String) : List String :=
  (text.toList.splitOnP isSep).map String.ofList

/- The lot codes that a cell lists. -/
def lotCodes (isSep : Char → Bool) (text : String) :
    List String :=
  ((pieces isSep text).map Python.strip).filter (fun code =>
    code != "")

/- `_split_lot_codes` on a text: lots are split at commas. -/
def splitLotCodes (text : String) : List String :=
  lotCodes (fun c => c == ',') text

end Sandbox

end RegEngine
