/-!
# Names of characters: pictograms

The names of cuneiform, hieroglyphs and the scripts behind them (Unicode 14), in the form that `CharacterName` reads.
-/

namespace Assay.Text

/-- The names of cuneiform, hieroglyphs and the scripts behind them. -/
def pictogramNames : String :=
  "=12000aCUNEIFORM_SIGN_Aq_TIMES_AxBADxGAN2_TENUxHAxIGIxLAGAR_GUNUxMUSHxSAGq2qBr_TIMES_ASH2yDUN3
    _GUNUyGALzbN2_TENUyHAyIGI_GUNUzMINyLAGABySHESHyU_PLUS_U_PLUS_UsGUNUr2s_TIMES_BALAGzGAN2_TENUzM
    E_PLUS_ENzSHA3zTAK4qDqKr_TIMES_ERIN2ySHITA_PLUS_GISHqLr_TIMES_ALyDIM2yGISHyHAyKAD3zIySHEyUSHrA
    NrEPHqMARt_TIMES_SHEqNr_OVER_ANsTHREE_TIMESsPLUS_NAGA_OPPOSING_AN_PLUS_NAGAzdSQUAREDrSHEqPINqR
    ADt_TIMES_KURrKABqSAL2rHs_ZIDA_TENUtKABA_TENUtOVER_ASH_TUG2_OVER_TUG2_TUG2_OVER_TUG2_PAPzdOVER
    _ASHzl_CROSSING_ASH_OVER_ASH_OVER_ASHs2sGABpBArDrG3rHAR2rLs_OVER_BALsAGrRsA2qIr_TIMES_AyGARyIG
    I_GUNUqUr_OVER_BU_ABzbUNsCROSSING_BUrLUGu_OVER_BULUGrRs2pDArGs_KISIM5_TIMES_A_PLUS_MASHziMARzh
    BALAGziIzhGAzj_PLUS_MASHziIzjR2ziUDzhHAzhIRzj_PLUS_LUzhKAKzhLAziUzj_PLUS_MASH2zjMzhNEzhPAP_PLU
    S_PAPzhSIzhTAK4zhU2_PLUS_GIR2ziSHrMrRsA3t4qIrBrMs_TIMES_SHEs2rNs_KASKAL_U_GUNU_DISHrSHqUr_OVER
    _DUsGUNUsSHESHIGrBs_TIMES_ESH2s2rGsUDrHrNs3t_GUNUy_GUNUs4rR2pEq_TIMES_PAPrOVER_E_NUN_OVER_NUNq
    2r_TIMES_A_PLUS_HA_PLUS_DAyGARyMIySALzHEyUqDINqGIRqLqNr_TIMES_GAN2zd_TENUyMEsCROSSING_ENsOPPOS
    ING_ENsSQUAREDqRENrIN2qSH2qZENt_TIMES_Azc_PLUS_LALzl_TIMES_LALzcNzbBADzbDUN3_GUNUzk_GUNUzbHAzd
    _GUNUzbIGI_GUNUzbKASKALzh_SQUAREDzcU3zbLAzdL_TIMES_LALzcIzcUzbU2zcDpGAr_GUNUr2s_TIMES_A_PLUS_D
    A_PLUS_HAzhHAzhIGIzbB2_TENU_PLUS_TABzbNzbSHzd2_PLUS_GALzBADzcR_PLUS_RAzbURzd_PLUS_RAzDAzbIzcM_
    TIMES_SHEzbUBzELzc_PLUS_LAzbNzc_TIMES_GAN2_TENUzGAN2_TENUzcRzbIzc4zd_PLUS_AzcR2_PLUS_SUzHA_PLU
    S_LU_PLUS_ESH2zcLzd_PLUS_LAzbI_PLUS_LIzbUB2zIGI_GUNUzbSH_PLUS_HU_PLUS_ASHzKAKzcSKALzbIDzd_PLUS
    _LALzbU3_PLUS_ANzLAzME_PLUS_ENzbIzNUNzd_OVER_NUNzPAzSALzcRzbHEzd_PLUS_TURzcIDzbUMzTAK4zUzbDzc_
    PLUS_DUtOVER_GA2rBAt_CROSSING_GABArDs_OVER_GAD_GAR_OVER_GARrLs_GAD_OVER_GAD_GAR_OVER_GARsAMrMr
    Ns2t_TENUuOVER_GAN2uCROSSING_GAN2rRs3rSHANqESHTINw_TIMES_KURqIr_TIMES_EyUsCROSSING_GIr4s_OVER_
    GI4tCROSSING_GI4rDIMrR2t_GUNUs3t_TIMES_A_PLUS_IGIzbGAN2_TENUzbIGIzbLU_PLUS_IGIzbPArSALsHt_CROS
    SING_GISHuTIMES_BADzbTAK4vENUqUr_CROSSING_GUr2s_TIMES_KAKzd_TIMES_IGI_GUNUzNUNzSAL_PLUS_TUG2tG
    UNUrDs_TIMES_A_PLUS_KURzKURtOVER_GUD_LUGALrLrMs_TIMES_SHErRs7sUNtSHpHAr_TENUsGUNUrLqIr_TIMES_A
    SHzc2yBADyDISHyGADyKINyNUNySHEyUqUrB2t_TIMES_ANzbHALzbKASKALzbLISHzbUDrL2pIq_AqBqDIMt_OVER_IDI
    M_BURzfSQUAREDqGrIs_DIBtRItOVER_IGI_SHIR_OVER_SHIR_UD_OVER_UDtGUNUqLr_TIMES_GAN2_TENUr2qMr_TIM
    ES_TAK4sCROSSING_IMsOPPOSING_IMsSQUAREDrINqNqRqSHpKAr_TIMES_AzDzb_PLUS_KU3zSH2yBADzbLAGzbRzIyE
    RIN2zSH2yGAzbLzbN2_TENUzbRzc_PLUS_SHA3_PLUS_AzIzbR2zbSH_PLUS_SARzeCROSSING_GISHzUzbR7yIGIzMyKA
    KzIzbDyLIzUyMEzb_PLUS_DUzhGIzhTEzIzb_PLUS_NUNUZyNEzUNyPIyRUySAzbRzHAzbEzbIDzbUzIGzUHURyTARyUz2
    zDzMUM_TIMES_PAzSHyZIr2s_CROSSING_KA2rBrD2s3s4s5t_OVER_KAD5rKs_TIMES_IGI_GUNUrLs_TIMES_BADtCRO
    SSING_KALrM2s4rSKALv_LAGAB_TIMES_U_OVER_LAGAB_TIMES_UwOVER_KASKAL_LAGAB_TIMES_U_OVER_LAGAB_TIM
    ES_UqESH2qIr_TIMES_BADyUzDrDrNrSALsHsIM5v_OVER_KISIM5qUr_OVER_HI_TIMES_ASH2_KU_OVER_HI_TIMES_A
    SH2r3r4s_VARIANT_FORMr7rLs_GUNUrNrRs_OPPOSING_KURrSHU2qWU318pLArGABu_TIMES_Azd_PLUS_DA_PLUS_HA
    zjGARzjLALzdLzdNzdSH_ZIDA_TENUzcBADzdIzcDARzcENzcGAzeRzdUDzf_PLUS_GUDzcHAzeLzdI_TIMES_NUNzcIGI
    _GUNUzdMze_PLUS_HAzkLUzcKIzeNzdU3zeLzf_PLUS_HI_PLUS_AzcLAGABzdISHzdUzeLzcMEze_PLUS_ENzdUSHzcNE
    zcSHE_PLUS_SUMzeITA_PLUS_GISH_PLUS_ERIN2zsTENUzeU2zg_PLUS_SHU2zdUMzcTAGzeK4zdE_PLUS_A_PLUS_SU_
    PLUS_NAzcUzd_PLUS_AzjU_PLUS_Uzd2_PLUS_ASHzdDzdSHvSQUAREDtRu_TIMES_SHEzf_PLUS_SUMvGUNUz_OVER_LA
    GAR_GUNU_SHErHSHUrLs_TIMES_LALrMs_TIMES_KURzd_PLUS_RUqIrLrMMU2rSHqUr_TIMES_BADr2s_TIMES_ALzBAD
    zESH2ze_TENUzGAN2_TENUzHI_TIMES_BADzIMzKAD2zd3ze_PLUS_ASHzbIzLA_PLUS_ASHzcGABzME_PLUS_ENzNEzbU
    zSI_PLUS_ASHzcK2_PLUS_BUzTUG2uENUtCROSSING_LU2tOPPOSING_LU2tSQUAREDuHESHIGr3rGALu_OVER_LUGALwP
    POSING_LUGALvSHESHIGrHrLrMs_OVER_LUMzc_GAR_OVER_GARpMAr_TIMES_TAK4sGUNUr2rHrRrSHt2qErSqIrNqUr_
    OVER_MUrGs_GUNUrNSUBrRGU2rSHt_TIMES_AzbKURzbZAuOVER_MUSHze_TIMES_A_PLUS_NAuCROSSING_MUSHt3u_TI
    MES_Azd_PLUS_DIzcDIvGUNUpNAr2rGAt_INVERTEDuTIMES_SHU_TENUuOPPOSING_NAGAtRrM_NUTILLUrMs2qEr_TIM
    ES_AyUDsSHESHIGqIr_TIMES_Er2rMs_TIMES_GAN2_TENUzcR_PLUS_GAN2_TENUrNDA2v_TIMES_ANzeSHzg_PLUS_AS
    HzdGUDzdME_PLUS_GAN2_TENUzdNEzeUNzdSHEzg_PLUS_A_ANznSHzp_PLUS_ASHzdU2_PLUS_ASHzeSHrSAGqUr11rNs
    _LAGAR_TIMES_GARzgMASHzgSALzj_OVER_NUN_LAGAR_TIMES_SALzgUSHtTENUtOVER_NUNtCROSSING_NUNzg_LAGAR
    _OVER_LAGARsUZu_AB2_TIMES_ASHGABzgBIzgDUGzgGUDzgIGI_GUNUzgKAD3zgLAzgNEzgSILA3zgU2vKISIM5_TIMES
    _BIzl_UpPArDrNrPqESH2qIr_TIMES_AzByBIzUyEyIzByUz2sCROSSING_PIrRIGu_TIMES_KALzcUDzcZAvOPPOSING_
    PIRIGpRArBqIqUpSArG_NUTILLUrGs_TIMES_AzDUzcBzHAzKAKzbURzLUMzMIzNUNzSALzbHIDzTABzU2zbBzbMzbRzbS
    HtOVER_SAGtGUNUrLs_LAGAB_TIMES_ASH2rNGA2rRqHAs3t_TIMES_AzbBADzbGISHzbNEzbSHU2zbTURzbUzc_PLUS_A
    s6sB6sR2rEs_HUtOVER_SHE_GAD_OVER_GAD_GAR_OVER_GARzdTAB_OVER_TAB_GAR_OVER_GARsG9sNsSHu2uLAMrIDt
    _TIMES_AzbIMsMt_TIMES_AzbBALzcULUGzbDINzbGARzbIGIze_GUNUzbKUSHU2zbLULzbMUGzbSALsNIGsRt_TENUuOV
    ER_SHIR_BUR_OVER_BURsTArUs_OVER_INVERTED_SHUs2sBURqIr_GUNUrGs4t_OVER_SIG4_SHU2rK2rLA3qUr_OVER_
    SUrDs2rHURrMsASHrRs9pTAr_ASTERISKsTIMES_HIyMIsGUNUrBs_OVER_TAB_NI_OVER_NI_DISH_OVER_DISHtSQUAR
    EDrGs_TIMES_BIzGUDzSHEzcUzTUG2zUDrK4rRqEr_GUNUqIr_TENUrLrRs_TIMES_TAK4tOVER_TIRzc_GAD_OVER_GAD
    _GAR_OVER_GARqUrG2rKrMrRs_OVER_TUR_ZA_OVER_ZApUq_GUDrU_UrOVER_U_PA_OVER_PA_GAR_OVER_GARySUR_OV
    ER_SURyU_REVERSED_OVER_U_REVERSEDq2qBqDr_KUSHU2sTIMES_BADyMIyU_PLUS_U_PLUS_Uzo_GUNUsGUNUsSHESH
    IGz_TIMES_BADrUGqMr_TIMES_LAGAByME_PLUS_DAySHA3yUrBINrUMt_TIMES_KASKALzbPAqNr_GUNUqRr_CROSSING
    _URsSHESHIGr2s_TIMES_A_PLUS_HAzhNAzbLzHAzNUNzU2zc_PLUS_ASHziBIr4rIs3rUs_TIMES_AzbSHGABzBARzDUN
    zGAzcLzcN2_TENUzcRzbUzHAzIGIzbMzbSHzKIzLUMzMINzPAzSHEzbIG4zTUzU_PLUS_GUDzbDzbRUDAsDAu_TIMES_Uq
    SHs_TIMES_AzKUzcRzTAK4sXs2sUMXqTUKIqZ3s_TIMES_KASKALrUpZAr_TENUsSQUARED_TIMES_KURrGrMXqE2qIr_O
    VER_ZIr3rBs_KABA_TENUrGrZ2qUr5s_TIMES_ArBURrMpKAP_ELAMITEpAB_TIMES_NUNr2_TIMES_AqMAR_TIMES_KUG
    pDAG_KISIM5_TIMES_U2_PLUS_MASHs3qISH_PLUS_SHUqUB_TIMES_SHEpEZEN_TIMES_GUDzbSHEpGA2_TIMES_AN_PL
    US_KAK_PLUS_AzbSH2qE22qIGpHUSHpKA_TIMES_ANSHEzSH3yGISHzUDyHI_TIMES_ASH2yLUMyPAySHULyTUyUR2pLAG
    AB_TIMES_GIqU2_SHESHIG_TIMES_BADtTIMES_ESH2_PLUS_LALzSHUpMESHqUSH3_TIMES_ZApNA4qINs9sDA2_TIMES
    _BALzdGIqU11_ROTATED_NINETY_DEGREESpPESH2_ASTERISKqIR2pSAG_TIMES_IGI_GUNUpTI2pUM_TIMES_MEq_U=1
    2400kNUMERIC_SIGN_TWO_ASHyHREE_ASHxFOUR_ASHyIVE_ASHxSIX_ASHyEVEN_ASHxEIGHT_ASHxNINE_ASHxTHREE_
    DISHxFOUR_DISHyIVE_DISHxSIX_DISHyEVEN_DISHxEIGHT_DISHxNINE_DISHxFOUR_UyIVE_UxSIX_UyEVEN_UxEIGH
    T_UxNINE_UxONE_GESH2xTWO_GESH2yHREE_GESH2xFOUR_GESH2yIVE_GESH2xSIX_GESH2yEVEN_GESH2xEIGHT_GESH
    2xNINE_GESH2xONE_GESHUxTWO_GESHUyHREE_GESHUxFOUR_GESHUyIVE_GESHUxTWO_SHAR2yHREE_SHAR2zj_VARIAN
    T_FORMxFOUR_SHAR2yIVE_SHAR2xSIX_SHAR2yEVEN_SHAR2xEIGHT_SHAR2xNINE_SHAR2xONE_SHARUxTWO_SHARUyHR
    EE_SHARUzj_VARIANT_FORMxFOUR_SHARUyIVE_SHARUxSHAR2_TIMES_GAL_PLUS_DISHztMINxONE_BURUxTWO_BURUy
    HREE_BURUzi_VARIANT_FORMxFOUR_BURUyIVE_BURUxTHREE_VARIANT_FORM_ESH16zu21xFOUR_VARIANT_FORM_LIM
    MUzv4zv_AzwBxSIX_VARIANT_FORM_ASH9yEVEN_VARIANT_FORM_IMIN3zv_AzwBxEIGHT_VARIANT_FORM_USSUzv3xN
    INE_VARIANT_FORM_ILIMMUzw3zw4zw_AxTWO_ASH_TENUyHREE_ASH_TENUxFOUR_ASH_TENUyIVE_ASH_TENUxSIX_AS
    H_TENUxONE_BAN2xTWO_BAN2yHREE_BAN2xFOUR_BAN2zh_VARIANT_FORMyIVE_BAN2zh_VARIANT_FORMxNIGIDAMINz
    eESHxONE_ESHE3xTWO_ESHE3xONE_THIRD_DISHxTWO_THIRDS_DISHxFIVE_SIXTHS_DISHxONE_THIRD_VARIANT_FOR
    M_AxTWO_THIRDS_VARIANT_FORM_AxONE_EIGHTH_ASHzcQUARTER_ASHyLD_ASSYRIAN_ONE_SIXTHzpQUARTERyNE_QU
    ARTER_GURzcHALF_GURxELAMITE_ONE_THIRDzgTWO_THIRDSzgFORTYzhIFTYxFOUR_U_VARIANT_FORMyIVE_U_VARIA
    NT_FORMxSIX_U_VARIANT_FORMyEVEN_U_VARIANT_FORMxEIGHT_U_VARIANT_FORMxNINE_U_VARIANT_FORM=12470k
    PUNCTUATION_SIGN_OLD_ASSYRIAN_WORD_DIVIDERzcVERTICAL_COLONzcDIAGONAL_COLONzlTRICOLONzlQUADCOLO
    N=12480kSIGN_AB_TIMES_NUN_TENUySHU2qD_TIMES_ESH2pBAD_TIMES_DISH_TENUrHAR2_TIMES_AB2zdNIzdZAqU_
    OVER_BU_TIMES_NA2pDA_TIMES_TAK4rG_TIMES_KURqIM_TIMES_IGIzU_U_Us2_TIMES_UDqUG_TIMES_ANSHEzbSHzd
    _AT_LEFTzDINzbUNzERIN2zGAzbIzcR2_GUNUzcSHzHAzbIzIGI_GUNUzKASKALzbURzcSHU2zg_PLUS_KASKALzLAK-02
    0zcMzd_TIMES_KURzbUH_PLUS_GISHzMASHzbESzbIzNIzPIzSHEzbI_GUNUpE2_TIMES_KURyPAPqRIN2_XqSH2_CROSS
    ING_ESH2qZEN_SHESHIG_TIMES_ASHzjHIzjIGI_GUNUzjLAzlLzjMEzlSzjSUuTIMES_SUpGA2_TIMES_BAHAR2zDIM_G
    UNUzbUG_TIMES_IGI_GUNUzkKASKALzERENzGAzcR_PLUS_DIzjNEzHA_PLUS_AzKUSHU2_PLUS_KASKALzLAMzd_TIMES
    _KURzbUHzMUSHzNEzc_PLUS_E2ziGIzSHIMzZIZ2rBA_ROTATED_NINETY_DEGREESqESHTIN_TIMES_UqISH_TIMES_GI
    SH_CROSSING_GISHqU2_TIMES_IGI_GUNUrD_PLUS_GISH_TIMES_TAK4pHA_TENU_GUNUqI_TIMES_ASH_OVER_HI_TIM
    ES_ASHpKA_TIMES_BUyKAyU_U_UzRpLAGAB_TIMES_ZU_OVER_ZUrK-003u21v5u30u50v1u62u79_OVER_LAK-079_GUN
    Uu80v1_OVER_LAK-081u92t130u42t210v9u20v5v8u38u65v6t343v7v8u83v4u90t441v9w_TIMES_GUzeIGIzePAP_P
    LUS_LU3znPAP_PLUS_LU3zeU2_PLUS_BAu50v7u70u83u90v2v3v5t550t608u17w_TIMES_ASHzeBADzeDUN3_GUNU_GU
    NUzeKU3zeLAzeTARzfEzeU2zfDzfRUDAu36u48w_TIMES_DUBzeGAzeIGIzh_GUNUzeNIzePAP_PLUS_PAP_PLUS_LU3ze
    SHESH_PLUS_KIzeUDzfRUDAt724u49qU2_GUNU_TIMES_ASHtTIMES_DISHzHALzPAPzd_PLUS_PAP_PLUS_LU3zTAK4pM
    I_PLUS_ZA7qUSH_OVER_MUSH_TIMES_GAzlKAKpNINDA2_TIMES_DIM_GUNUzdGISHzeULzdHIzdKESH2zdLAK-050zdMA
    SHzdPAP_PLUS_PAPzdUze_PLUS_UzeRUDApSAG_GUNU_TIMES_HAtTIMES_ENzSHE_AT_LEFTzTAK4qHA6_TENUrE_OVER
    _SHEtPLUS_HUB2yNAM2ySARrU2_PLUS_DUG_TIMES_NIzE2_TIMES_ANqI_TIMES_TAK4pTAK4_PLUS_SAGqUM_TIMES_G
    AN2_TENUzTHREE_DISHpUR2_INVERTEDtTIMES_UDrU_TIMES_DARA3zLAK-668zbU3pZA7qU_OVER_ZU_PLUS_SARr5_T
    IMES_THREE_DISH_TENU=12F90bYPRO-MINOAN_SIGN_CM001w2w4w5w6w7w8w9v10w1w2xBw3w5w7w9v21w3w4w5w6w7w
    8w9v30w3w4w5w6w7w8w9v40w1w4w6w7w9v50w1w2w3w4w5w6w8w9v60w1w2w3w4w6w7w8w9v70w1w2w3w4w5xBw6w8w9v8
    0w1w2w3w4w5w6w7w8w9v90w1w2w4w5w6w7w8w9u100w1w2w3w4w5w7w8w9v10w2w4u301w2=13000aEGYPTIAN_HIEROGL
    YPH_A001x2x3x4x5yAx6yAyBx7x8x9w10x1x2x3x4yAx5x6x7yAx8x9w20x1x2x3x4x5x6x7x8x9w30x1x2yAx3x4x5x6x
    7x8x9w40yAx1x2yAx3yAx4x5yAx6x7x8x9w50x1x2x3x4x5x6x7x8x9w60x1x2x3x4x5x6x7x8x9w70uB001x2x3x4x5yA
    x6x7x8x9uC001x2yAyByCx3x4x5x6x7x8x9w10yAx1x2x3x4x5x6x7x8x9w20x1x2x3x4uD001x2x3x4x5x6x7x8yAx9w1
    0x1x2x3x4x5x6x7x8x9w20x1x2x3x4x5x6x7yAx8x9w30x1yAx2x3x4yAx5x6x7x8x9w40x1x2x3x4x5x6yAx7x8yAx9w5
    0yAyByCyDyEyFyGyHyIx1x2yAx3x4yAx5x6x7x8x9w60x1x2x3x4x5x6x7yAyByCyDyEyFyGyHuE001x2x3x4x5x6x7x8y
    Ax9yAw10x1x2x3x4x5x6yAx7yAx8x9w20yAx1x2x3x4x5x6x7x8yAx9w30x1x2x3x4yAx6x7x8uF001yAx2x3x4x5x6x7x
    8x9w10x1x2x3yAx4x5x6x7x8x9w20x1yAx2x3x4x5x6x7x8x9w30x1yAx2x3x4x5x6x7yAx8yAx9w40x1x2x3x4x5yAx6y
    Ax7yAx8x9w50x1yAyByCx2x3uG001x2x3x4x5x6yAx7yAyBx8x9w10x1yAx2x3x4x5x6x7x8x9w20yAx1x2x3x4x5x6yAx
    7x8x9w30x1x2x3x4x5x6yAx7yAx8x9w40x1x2x3yAx4x5yAx6x7x8x9w50x1x2x3x4uH001x2x3x4x5x6yAx7x8uI001x2
    x3x4x5yAx6x7x8x9yAw10yAx1yAx2x3x4x5uK001x2x3x4x5x6x7x8uL001x2yAx3x4x5x6yAx7x8uM001yAyBx2x3yAx4
    x5x6x7x8x9w10yAx1x2yAyByCyDyEyFyGyHx3x4x5yAx6yAx7yAx8x9w20x1x2yAx3x4yAx5x6x7x8yAx9w30x1yAx2x3y
    AyBx4x5x6x7x8x9w40yAx1x2x3x4uN001x2x3x4x5x6x7x8x9w10x1x2x3x4x5x6x7x8yAyBx9w20x1x2x3x4x5yAx6x7x
    8x9w30x1x2x3yAx4yAx5yAx6x7yAx8x9w40x1x2vL001y2y3y4y5zAy6y7y8y9x10y1y2y3y4y5y6y7zAy8y9x20vU001y
    2y3y4y5y6y7y8y9x10zAy1zAy2y3y4y5y6y7y8zAy9x20y1y2zAuO001yAx2x3x4x5yAx6yAyByCyDyEyFx7x8x9w10yAy
    ByCx1x2x3x4x5x6x7x8x9yAw20yAx1x2x3x4yAx5yAx6x7x8x9yAw30yAx1x2x3yAx4x5x6yAyByCyDx7x8x9w40x1x2x3
    x4x5x6x7x8x9w50yAyBx1uP001yAx2x3yAx4x5x6x7x8x9w10x1uQ001x2x3x4x5x6x7uR001x2yAx3yAyBx4x5x6x7x8x
    9w10yAx1x2x3x4x5x6yAx7x8x9w20x1x2x3x4x5x6x7x8x9uS001x2yAx3x4x5x6yAx7x8x9w10x1x2x3x4yAyBx5x6x7y
    Ax8x9w20x1x2x3x4x5x6yAyBx7x8x9w30x1x2x3x4x5yAx6x7x8x9w40x1x2x3x4x5x6uT001x2x3yAx4x5x6x7yAx8yAx
    9yAw10x1yAx2x3x4x5x6yAx7x8x9w20x1x2x3x4x5x6x7x8x9w30x1x2yAx3yAx4x5x6uU001x2x3x4x5x6yAyBx7x8x9w
    10x1x2x3x4x5x6x7x8x9w20x1x2x3yAx4x5x6x7x8x9yAw30x1x2yAx3x4x5x6x7x8x9w40x1x2uV001yAyByCyDyEyFyG
    yHyIx2yAx3x4x5x6x7yAyBx8x9w10x1yAyByCx2yAyBx3x4x5x6x7x8x9w20yAyByCyDyEyFyGyHyIyJyKyLx1x2x3yAx4
    x5x6x7x8yAx9yAw30yAx1yAx2x3yAx4x5x6x7yAx8x9w40yAuW001x2x3yAx4x5x6x7x8x9yAw10yAx1x2x3x4yAx5x6x7
    yAx8yAx9w20x1x2x3x4yAx5uX001x2x3x4yAyBx5x6yAx7x8yAuY001yAx2x3x4x5x6x7x8uZ001x2yAyByCyDx3yAyBx4
    yAx5yAx6x7x8x9w10x1x2x3x4x5yAyByCyDyEyFyGyHyIx6yAyByCyDyEyFyGyHuAA001y2y3y4y5y6y7zAzBy8y9x10y1
    y2y3y4y5y6y7y8y9x20y1y2y3y4y5y6y7y8y9x30y1y2=13430uVERTICAL_JOINERuHORIZONTAL_JOINERuINSERT_AT
    _TOP_STARTzfBOTTOM_STARTzfTOP_ENDzfBOTTOM_ENDuOVERLAY_MIDDLEuBEGIN_SEGMENTuEND_SEGMENT=14400aA
    NATOLIAN_HIEROGLYPH_A001y2y3y4y5y6y7y8y9x10zAy1y2y3y4y5y6y7y8y9x20y1y2y3y4y5y6zAy7y8y9x30y1y2y
    3y4y5y6y7y8y9zAx40y1zAy2y3y4y5zAy6zAzBy7y8y9x50y1y2y3y4y5y6y7y8y9x60y1y2y3y4y5y6zAzBzCy7y8y9x7
    0y1y2y3y4y5y6y7y8y9x80y1y2y3y4y5y6y7y8y9x90y1y2y3y4y5y6y7zAy8zAy9w100zAy1zAy2zAy3y4zAzBzCy5zAz
    By6y7zAzBzCy8y9x10zAzBy1y2y3y4y5zAy6y7y8y9x20y1y2y3y4y5zAy6y7y8y9x30y1y2y3y4y5zAy6y7y8y9x40y1y
    2y3y4y5y6y7y8y9x50y1y2y3y4y5y6y7y8y9x60y1y2y3y4y5y6y7y8y9x70y1y2y3y4y5y6y7y8y9x80y1y2y3y4y5y6y
    7y8y9x90y1y2y3y4y5y6y7y8y9w200y1y2zAzBy3y4y5y6y7zAy8y9zAx10y1y2y3y4y5zAy6zAy7y8y9x20y1y2y3y4y5
    y6y7zAy8y9x30y1y2y3y4y5y6y7y8y9x40y1y2y3y4y5y6y7y8y9x50y1y2y3y4y5y6y7y8y9x60y1y2y3y4y5y6y7zAy8
    y9x70y1y2y3y4y5y6y7y8y9x80y1y2y3y4y5y6y7y8y9zAx90y1y2y3y4zAy5y6y7y8y9zAw300y1y2y3y4y5y6y7y8y9z
    Ax10y1y2y3y4y5y6y7y8y9x20y1y2y3y4y5y6y7y8y9zAx30y1y2AzBzCy3y4y5y6zAzBzCy7y8y9x40y1y2y3y4y5y6y7
    y8y9x50y1y2y3y4y5y6y7y8y9zAx60y1y2y3y4zAy5y6y7y8zAy9x70y1zAy2y3y4y5y6y7y8y9x80y1zAy2y3_RA_OR_R
    IzAy4y5y6zAy7y8y9x90y1y2y3_EIGHTy4y5y6y7y8y9w400y1y2y3y4y5y6y7y8y9x10_BEGIN_LOGOGRAM_MARKzA_EN
    D_LOGOGRAM_MARKy1y2y3y4y5y6y7y8y9x20y1y2y3y4y5y6y7y8y9x30y1y2y3y4y5y6y7y8y9x40y1y2y3y4y5y6y7y8
    y9x50zAy1y2y3y4y5y6y7zAy8y9x60y1y2y3y4y5y6y7y8y9x70y1y2y3y4y5y6y7y8y9x80y1y2y3y4y5y6y7y8y9x90y
    1y2y3y4y5y6y7w501y2y3y4y5y6y7y8y9x10y1y2y3y4y5y6y7y8y9x20y1y2y3y4y5y6y7y8y9x30=16800aBAMUM_LET
    TER_PHASE-A_NGKUE_MFONvGBIEE_FONvPON_MFON_PIPAEMGBIEEzlBAvNAA_MFONvSHUENSHUETvTITA_MFONvNZA_MF
    ONvSHINDA_PA_NJIvPON_PA_NJI_PIPAEMGBIEEznBAvMAEMBGBIEEvTU_MAEMBAvNGANGUvMAEMVEUXxNSUAEwVEUAENG
    AMvSEUNYAMvNTOQPENvKEUKEUTNDAvNKINDIvSUUvNGKUENZEUMvLAPAQwET_KUTvNTAP_MFAAvMAEKEUPvPASHAEvGHEU
    AERAEvPAMSHAEvMON_NGGEUAETvNZUN_MEUTvU_YUQ_NAEvGHEUAEGHEUAEvNTAP_NTAAvSISAvMGBASAwEUNJOMNDEUQw
    OOMPUQvKAFAvPA_LEERAEWAvNDA_LEERAEWAvPETvMAEMKPENvNIKAvPUPvTUAEPvLUAEPvSONJAMvTEUTEUWENvMAENYI
    vKETvNDAANGGEUAETvKUOQvMOOMEUTvSHUMvLOMMAEvFIRIvROMvKPOQvSOQvMAP_PIEETvSHIRAEvNTAPvSHOQ_NSHUT_
    YUMvNYIT_MONGKEUAEQvPAARAEvNKAARAEvUNKNOWNvNGGENvMAESIvNJAMvMBANYIvNYETvTEUAENvSOTvPAAMvNSHIEE
    vMAEMvNYIvKAQvNSHAvVEEvLUvNENwAQvMBAQtB_NSHUETvTU_MAEMGBIEEvSIEEwET_TUvLOM_NTEUMvMBA_MAELEEvKI
    EEMvYEURAEvMBAARAEvKAMvPEESHIvYAFU_LEERAEWAvLAM_NSHUT_NYAMvNTIEE_SHEUOQwDU_NJAAvGHEUGHEUAEMvPI
    TvTU_NSIEEvSHET_NJAQyUAEQTUvMFON_TEUAEQwBIT_MBAAKETvNYI_NTEUMvKEUPUQvGHEUGHENvKEUYEUXvLAANAEvP
    ARUMvVEUMvNGKINDI_MVOPxGEU_MBUvWUAETvSAKEUAEvTAAMvMEUQvNGGUOQzc_LARGEvMFIYAQvSUEvMBEURIwONTIEE
    NvNYAEMAEvPUNGAAMvMEUT_NGGEETvFEUXvMBUOQvFEEvKEUAEMvMA_NJEUAENAzbUQAvLETvNGGAAMwSENvMAvKIQvNGO
    MtC_NGKUE_MAEMBAwZAvYUMvWANGKUOQvNGGENwDEUAEREEwGKAQvGHARAEvMBEEKEETvGBAYIvNYIR_MKPARAQ_MEUNwT
    U_MBITvMBEUMvPIRIEENvNDOMBUvMBAA_CABBAGE-TREEvKEUSHEUAEPvGHAPvKEUKAQvYU_MUOMAEvNZEUMvMBUEvNSEU
    AENvMBITvYEUQvKPARAQwAAvSEUXvNDIDAvTAASHAEvNJUEQvTITA_YUEvSUAETvNGGUAEN_NYAMvVEUXvNANSANAQvMA_
    KEUAERIvNTAAwGGUONvLAPvMBIRIEENwGBASAQvNTEUNGBAvTEUTEUXvNGGUMvFUEvNDEUTwSAxHAQvBUNGvVEUAEPENvM
    BERAEvRUvNJAEMvLAMvTITUAEPvNSUOT_NGOMwJEEEEvKETvNGGUvMAESIwBUAEMvLUvKUTvNJAMwGOMvWUPvNGGUEETwS
    OMwTENvKUOP_NKAARAEvNSUNwDAMvMA_NSIEEvYAAvNDAPvSHUEQwETFONvMBIwAEMBAwBANYIvKEUSEUXvMBEUXvKEUMv
    MBAA_PICKETvYUWOQvNJEUXvMIEEwUAEvSHIQvKEN_LAWzFATIGUEvNGAQwAQvLIQvPINwENvTETtD_MBUOvWAPvNJIvMF
    ONvNJIEEvLIEEvNJEUTwSHEEwGGAAMAEwYAMvWUAENvNGKUNvSHEEvNGKAPvKEUAETMEUNvTEUTvSHEUAEvNJAPvSUEvKE
    TvYAEMMAEvKUOMvSAPvMFEUTvNDEUXvMALEERIwEUTvSEUAEQvYENvNJEUAEMvKEUOT_MBUAEvNGKEURIvTUvGHAAvNGKY
    EEvFEUFEUAETvNDEEvMGBOFUMvLEUAEPvNDONvMONIwGBEUNvPUUTvMGBIEEwFOvLUMvNSIEEPvMBAAvKWAETvNYETvTEU
    AENvSOTvYUWOQvKEUMvRAEMvTEEEEvNGKEUAEQvMFEUAEvNSIEETvKEUPvPIPwEUTAEvNYUEvLETvNGGAAMvMFIEEvNGGW
    AENvYUOMvPAPvYUOPvNDAMwTEUMvSUAEvKUNvNGGEUXxKIEEvTUOTvMEUNvKUQvNSUMvTEUNvMAENJETvNGGAPvLEUMvNG
    GUOMwSHUTwJUEQvGHEUAEvKUvREN_OLDvTAEwOQvNYIvRIIvLEEEEvMEEEEvMvSUUvMUvSHIIxEUXvKYEEvNUvSHUvNTEE
    vPEEvNIvSHOQvPUQvMVOPvLOQvREN_MUCHvTIvNTUUvMBAA_SEVENvSAQvFAAtE_NDAPvTOONvMBEUMvLAPvVOMvLOONvP
    AAvSOMvRAQvNSHUOPwDUNvPUAEvTAMvNGKAvKPEUXvWUOvSEEvNGGEUAETvPAAMvTOOvKUOPvLOMvNSHIEEwGOPvMAEMvN
    GKEUXxOQwSHUEvRIMGBAvNJEUXvPEEMvSAAvNGGURAEvMGBAvGHEUXvNGKEUAEMwJAEMLIvMAPvLOOTvNGGEEEEwDIQvTA
    EN_NTEUMvSETvPUMvNDAA_SOFTNESSwGGUAESHAE_NYAMvYIEEvGHEUNvTUAEvYEUAEvPOvTUMAEvKEUAEvSUAENvTEUAE
    QvVEUAEvWEUXvLAAMvPUvTAAQvGHAAMAEvNGEUREUTvSHEUAEQvMGBENwBEEvNZAQwKOMvGBETvTUMvKUETvYAPvNYI_CL
    EAVERvYITvMFEUQvNDIAQvPIEEQvYUEQvLEUAEMvFUEvGBEUXvNGKUPvKETvMAEvNGKAAMIvGHETvFAvNTUMvPEUTvYEUM
    vNGGEUAEwYI_BETWEENwZUQvPOONvMIEEvFUETvNAEvMUAEvGHEUAEvFU_IvMVIvPUAQvNGKUMvKUTvPIETvNTAPvYEUAE
    TvNGGUPvPA_PEOPLEvFU_CALLwOMvNJEEvAvTOQvOvIvLAQvPA_PLURALvTAAxQvNDAA_MY_HOUSEvSHIQvYEUXvNGUAEv
    YUAENwOQ_SWIMMINGzCOVERwUQxNvKEUXvPEUXvNJEE_EPOCHvPUEvWUEvFEEvVEEvLUvMIvREUXwAEvNGUAETxAvSHOyQ
    vFU_REMEDYvNAvPIvLOQvKOvMENwAxQvTEUvKIvMONvTENvFAQvGHOMtF_KAvUvKUvEEvREEvTAEvNYIvLAvRIIxEEvMEE
    EEvTAAvNDAAwJAEMvMvSUUwHIIwIwEUXvKYEEwETvNUAEwUwJUAEvYOQvSHUvYAvNSHAvPEUXvNTEEvWUEvPEEvRUvNIvR
    EUXvKENvNGKWAENxGAvSHOvPUAEvFOMvWAvLIwOQvKOvMBENvRENvMAwOwBAAvTETvKPAvSAMBAvVUEQ=16A40aMRO_LET
    TER_TAlNGIlYOlMIMlBAlDAlAlPHIlKHAIlHAOlDAIlCHUlKEAAElOLlMAEMlNINlPAlOOlOlROlSHIlTHEAlEAlWAlElK
    OlLANmAlHAIlRIlTEK=16A60eDIGIT_ZEROkONEkTWOlHREEkFOURlIVEkSIXlEVENkEIGHTkNINE=16A6EfANDAfOUBLE
    _DANDAaTANGSA_LETTER_OZpCpQpXoAZpCpQpXoVZpCpQpXoEZpCpQpXoIZpCpQpXoUZpCpQpXoAWZqCqQqXoUIZqCqQqX
    oFINAL_NGoLONG_UEXoSHORT_UEZuAWXoUECqZqQqXpIUZrCrQrXoMZpCpQpXoKApHAoGAoNGAoSAoYAoWAoPAoNYAoPHA
    oBAoMAoNAoHAoLAoHTAoTAoDAoRAoNHAoSHAoCAoTSAoGHAoHTTAoTHAoXAoFAoDHAoCHAoZA=16AC0hDIGIT_ZEROnONE
    nTWOoHREEnFOURoIVEnSIXoEVENnEIGHTnNINE=16AD0aBASSA_VAH_LETTER_ENNIrKArSErFArMBErYIErGAHrDHIIrK
    PAHrJOrHWAHrWArZOrGBUrDOrCErUWUrTOrBArVUrYEINrPArWADDArArOsOrUrEErErI=16AF0kCOMBINING_HIGH_TON
    EuLOW_TONEuMID_TONEuLOW-MID_TONEuHIGH-LOW_TONEkFULL_STOP=16B00aPAHAWH_HMONG_VOWEL_KEEBwVuIBvVu
    AUBwVuUBvVuEBvVuAIBwVuOOBwVuAWBwVuUABwVuOBvVuIABwVuABvVuWBvVuAABwVnCONSONANT_VAUxNTSAUxLAUxHAU
    xNLAUxRAUxNKAUxQHAUxYAUxHLAUxMAUxCHAUxNCHAUxHNAUxPLHAUxNTHAUyAUxAUxXAUxCAUnMARK_CIM_TUBwSOwKES
    xHAVwSUAMwHOMwTAUMnSIGN_VOS_THOMxSHAB_CEEBsCIM_CHEEMsVOS_THIABwFEEMsXYEEM_NTXIVyRHOyTOVyFAIBsV
    OS_SEEVsMEEJ_SUABsVOS_NRUAsIB_YAMsXAUSsCIM_TSOV_ROG=16B50nDIGIT_ZEROtONEtTWOuHREEtFOURuIVEtSIX
    uEVENtEIGHTtNINE=16B5BnNUMBER_TENSuHUNDREDSuTEN_THOUSANDSuMILLIONSuHUNDRED_MILLIONSuTEN_BILLIO
    NSvRILLIONS=16B63nSIGN_VOS_LUBsXYOOsHLIsTHIRD-STAGE_HLIsZWJ_THAJsHNUBsNQIGsXIABsNTUJsAVsTXHEEJ
    _CEEVsMEEJ_TSEEBsTAUsLOSsMUSsCIM_HAIS_LUS_NTOG_NTOGwCUAM_TSHOOJwTXWVzb_CHWVwPUB_DAWBwNRES_TOS=
    16B7DnCLAN_SIGN_TSHEEJxYEEGxLISyAUJxXYOOJxKOOxHAWJxMUASxTHOJySABxPHABxKHABxHAMxVAJxFAJxYAJxTSW
    BxKWMxVWJ=16E40aMEDEFAIDRIN_CAPITAL_LETTER_MzcSzcVzcWzcATIUzcZzcKPzcPzcTzcGzcFzcIzcKzcAzcJzcEz
    cBzcCzcUzcYUzcLzcQzcHPzcNYzcXzcDzcOEzcNzcRzcOzcAIzcYmSMALL_LETTER_MzSzVzWzATIUzZzKPzPzTzGzFzIz
    KzAzJzEzBzCzUzYUzLzQzHPzNYzXzDzOEzNzRzOzAIzYmDIGIT_ZEROsONEsTWOtHREEsFOURtIVEsSIXtEVENsEIGHTsN
    INEmNUMBER_TENtELEVENtTWELVEuHIRTEENtFOURTEENuIFTEENtSIXTEENuEVENTEENtEIGHTEENtNINETEENmDIGIT_
    ONE_ALTERNATE_FORMsTWO_ALTERNATE_FORMtHREE_ALTERNATE_FORMmCOMMAmFULL_STOPmSYMBOL_AIVAmEXCLAMAT
    ION_OH=16F00bIAO_LETTER_PAmBAmYI_PAmPLAmMAnHAmARCHAIC_MAmFAmVAnFAmTAmDAmYI_TTAqAmTTAmDDAmNAnHA
    mYI_NNAmARCHAIC_NAmNNAoHAmLAnYAnHAoYAmTLHAmDLHAmTLHYAmDLHYAmKAmGAmYI_KAmQAnGAmNGAoHAmARCHAIC_N
    GAmHAmXAmGHAoHAmTSSAmDZZAmNYAoHAmTSHAmDZHAmYI_TSHApDZHAmREFORMED_TSHAmSHAnSAmZHAnSHAmTSAmDZAmY
    I_TSAmSAmZAnSAnZAoSAmARCHAIC_ZZAmZZYAoSYAmWAmAHmHHAmBRImSYImDZYImTEnSEmRTE=16F4FfSIGN_CONSONAN
    T_MODIFIER_BARfLETTER_NASALIZATIONfSIGN_ASPIRATIONkREFORMED_VOICINGtASPIRATIONfVOWEL_SIGN_ArAr
    HHrNsGqOrOqWOqWqErNsGqOEYqIrAsNtGrOrErIrUrNGqUrAsNtGrUrEIrNGqYrIqAEsEqERRqROUNDED_ERRqERqROUND
    ED_ERqAIqEIqAUqOUqNrGqUOGqYUIqOGrERqVWqIGqEAqIONGqUI=16F8FfTONE_RIGHTkTOP_RIGHTkABOVEkBELOWfLE
    TTER_TONE-2r3r4r5r6r7r8mREFORMED_TONE-1zb2zb4zb5zb6zb8=16FE0aTANGUT_ITERATION_MARKaNUSHU_ITERA
    TION_MARKaOLD_CHINESE_HOOK_MARKmITERATION_MARKaKHITAN_SMALL_SCRIPT_FILLER=16FF0aVIETNAMESE_ALT
    ERNATE_READING_MARK_CAzjNHAY=18800aTANGUT_COMPONENT-001t2t3t4t5t6t7t8t9s10t1t2t3t4t5t6t7t8t9s2
    0t1t2t3t4t5t6t7t8t9s30t1t2t3t4t5t6t7t8t9s40t1t2t3t4t5t6t7t8t9s50t1t2t3t4t5t6t7t8t9s60t1t2t3t4t
    5t6t7t8t9s70t1t2t3t4t5t6t7t8t9s80t1t2t3t4t5t6t7t8t9s90t1t2t3t4t5t6t7t8t9r100t1t2t3t4t5t6t7t8t9
    s10t1t2t3t4t5t6t7t8t9s20t1t2t3t4t5t6t7t8t9s30t1t2t3t4t5t6t7t8t9s40t1t2t3t4t5t6t7t8t9s50t1t2t3t
    4t5t6t7t8t9s60t1t2t3t4t5t6t7t8t9s70t1t2t3t4t5t6t7t8t9s80t1t2t3t4t5t6t7t8t9s90t1t2t3t4t5t6t7t8t
    9r200t1t2t3t4t5t6t7t8t9s10t1t2t3t4t5t6t7t8t9s20t1t2t3t4t5t6t7t8t9s30t1t2t3t4t5t6t7t8t9s40t1t2t
    3t4t5t6t7t8t9s50t1t2t3t4t5t6t7t8t9s60t1t2t3t4t5t6t7t8t9s70t1t2t3t4t5t6t7t8t9s80t1t2t3t4t5t6t7t
    8t9s90t1t2t3t4t5t6t7t8t9r300t1t2t3t4t5t6t7t8t9s10t1t2t3t4t5t6t7t8t9s20t1t2t3t4t5t6t7t8t9s30t1t
    2t3t4t5t6t7t8t9s40t1t2t3t4t5t6t7t8t9s50t1t2t3t4t5t6t7t8t9s60t1t2t3t4t5t6t7t8t9s70t1t2t3t4t5t6t
    7t8t9s80t1t2t3t4t5t6t7t8t9s90t1t2t3t4t5t6t7t8t9r400t1t2t3t4t5t6t7t8t9s10t1t2t3t4t5t6t7t8t9s20t
    1t2t3t4t5t6t7t8t9s30t1t2t3t4t5t6t7t8t9s40t1t2t3t4t5t6t7t8t9s50t1t2t3t4t5t6t7t8t9s60t1t2t3t4t5t
    6t7t8t9s70t1t2t3t4t5t6t7t8t9s80t1t2t3t4t5t6t7t8t9s90t1t2t3t4t5t6t7t8t9r500t1t2t3t4t5t6t7t8t9s1
    0t1t2t3t4t5t6t7t8t9s20t1t2t3t4t5t6t7t8t9s30t1t2t3t4t5t6t7t8t9s40t1t2t3t4t5t6t7t8t9s50t1t2t3t4t
    5t6t7t8t9s60t1t2t3t4t5t6t7t8t9s70t1t2t3t4t5t6t7t8t9s80t1t2t3t4t5t6t7t8t9s90t1t2t3t4t5t6t7t8t9r
    600t1t2t3t4t5t6t7t8t9s10t1t2t3t4t5t6t7t8t9s20t1t2t3t4t5t6t7t8t9s30t1t2t3t4t5t6t7t8t9s40t1t2t3t
    4t5t6t7t8t9s50t1t2t3t4t5t6t7t8t9s60t1t2t3t4t5t6t7t8t9s70t1t2t3t4t5t6t7t8t9s80t1t2t3t4t5t6t7t8t
    9s90t1t2t3t4t5t6t7t8t9r700t1t2t3t4t5t6t7t8t9s10t1t2t3t4t5t6t7t8t9s20t1t2t3t4t5t6t7t8t9s30t1t2t
    3t4t5t6t7t8t9s40t1t2t3t4t5t6t7t8t9s50t1t2t3t4t5t6t7t8t9s60t1t2t3t4t5t6t7t8aKHITAN_SMALL_SCRIPT
    _CHARACTER-18B00zj1zj2zj3zj4zj5zj6zj7zj8zj9zjAzjBzjCzjDzjEzjFzi10zj1zj2zj3zj4zj5zj6zj7zj8zj9zj
    AzjBzjCzjDzjEzjFzi20zj1zj2zj3zj4zj5zj6zj7zj8zj9zjAzjBzjCzjDzjEzjFzi30zj1zj2zj3zj4zj5zj6zj7zj8z
    j9zjAzjBzjCzjDzjEzjFzi40zj1zj2zj3zj4zj5zj6zj7zj8zj9zjAzjBzjCzjDzjEzjFzi50zj1zj2zj3zj4zj5zj6zj7
    zj8zj9zjAzjBzjCzjDzjEzjFzi60zj1zj2zj3zj4zj5zj6zj7zj8zj9zjAzjBzjCzjDzjEzjFzi70zj1zj2zj3zj4zj5zj
    6zj7zj8zj9zjAzjBzjCzjDzjEzjFzi80zj1zj2zj3zj4zj5zj6zj7zj8zj9zjAzjBzjCzjDzjEzjFzi90zj1zj2zj3zj4z
    j5zj6zj7zj8zj9zjAzjBzjCzjDzjEzjFziA0zj1zj2zj3zj4zj5zj6zj7zj8zj9zjAzjBzjCzjDzjEzjFziB0zj1zj2zj3
    zj4zj5zj6zj7zj8zj9zjAzjBzjCzjDzjEzjFziC0zj1zj2zj3zj4zj5zj6zj7zj8zj9zjAzjBzjCzjDzjEzjFziD0zj1zj
    2zj3zj4zj5zj6zj7zj8zj9zjAzjBzjCzjDzjEzjFziE0zj1zj2zj3zj4zj5zj6zj7zj8zj9zjAzjBzjCzjDzjEzjFziF0z
    j1zj2zj3zj4zj5zj6zj7zj8zj9zjAzjBzjCzjDzjEzjFzhC00zj1zj2zj3zj4zj5zj6zj7zj8zj9zjAzjBzjCzjDzjEzjF
    zi10zj1zj2zj3zj4zj5zj6zj7zj8zj9zjAzjBzjCzjDzjEzjFzi20zj1zj2zj3zj4zj5zj6zj7zj8zj9zjAzjBzjCzjDzj
    EzjFzi30zj1zj2zj3zj4zj5zj6zj7zj8zj9zjAzjBzjCzjDzjEzjFzi40zj1zj2zj3zj4zj5zj6zj7zj8zj9zjAzjBzjCz
    jDzjEzjFzi50zj1zj2zj3zj4zj5zj6zj7zj8zj9zjAzjBzjCzjDzjEzjFzi60zj1zj2zj3zj4zj5zj6zj7zj8zj9zjAzjB
    zjCzjDzjEzjFzi70zj1zj2zj3zj4zj5zj6zj7zj8zj9zjAzjBzjCzjDzjEzjFzi80zj1zj2zj3zj4zj5zj6zj7zj8zj9zj
    AzjBzjCzjDzjEzjFzi90zj1zj2zj3zj4zj5zj6zj7zj8zj9zjAzjBzjCzjDzjEzjFziA0zj1zj2zj3zj4zj5zj6zj7zj8z
    j9zjAzjBzjCzjDzjEzjFziB0zj1zj2zj3zj4zj5zj6zj7zj8zj9zjAzjBzjCzjDzjEzjFziC0zj1zj2zj3zj4zj5zj6zj7
    zj8zj9zjAzjBzjCzjDzjEzjFziD0zj1zj2zj3zj4zj5=1AFF0bATAKANA_LETTER_MINNAN_TONE-2zd3zd4zd5=1AFF5z
    d7zd8xNASALIZED_TONE-1zn2zn3zn4zn5=1AFFDzn7zn8=1B000qARCHAIC_EaHIRAGANA_LETTER_ARCHAIC_YEbENTA
    IGANA_LETTER_A-1u2u3uWOsI-1u2u3u4sU-1u2u3u4u5sE-2u3u4u5u6sO-1u2u3sKA-1v2v3v4v5v6v7v8v9v10w1vKE
    tI-1v2v3v4v5v6v7v8tU-1v2v3v4v5v6v7tE-1v2v3v4v5v6tO-1v2v3vKIsSA-1v2v3v4v5v6v7v8tI-1v2v3v4v5v6tU
    -1v2v3v4v5v6v7v8tE-1v2v3v4v5tO-1v2v3v4v5v6v7sTA-1v2v3v4tI-1v2v3v4v5v6v7tU-1v2v3v4vTOtE-1v2v3v4
    v5v6v7v8v9tO-1v2v3v4v5v6vRAsNA-1v2v3v4v5v6v7v8v9tI-1v2v3v4v5v6v7vTEtU-1v2v3tE-1v2v3v4v5v6vKOtO
    -1v2v3v4v5sHA-1v2v3v4v5v6v7v8v9v10w1tI-1v2v3v4v5v6v7tU-1v2v3tE-1v2v3v4v5v6v7tO-1v2v3v4v5v6v7v8
    sMA-1v2v3v4v5v6v7tI-1v2v3v4v5v6v7tU-1v2v3v4tE-1v2vMAtO-1v2v3v4v5v6sYA-1v2v3v4v5vYOtU-1v2v3v4tO
    -1v2v3v4v5v6sRA-1v2v3v4tI-1v2v3v4v5v6v7tU-1v2v3v4v5v6tE-1v2v3v4tO-1v2v3v4v5v6sWA-1v2v3v4v5tI-1
    v2v3v4v5tE-1v2v3v4tO-1v2v3v4v5v6v7sN-MU-MO-1zb2bIRAGANA_LETTER_ARCHAIC_WUaKATAKANA_LETTER_ARCH
    AIC_YIzEyWU=1B150aHIRAGANA_LETTER_SMALL_WIxExO=1B164aKATAKANA_LETTER_SMALL_WIxExOwN=1B170aNUSH
    U_CHARACTER-1B170u1u2u3u4u5u6u7u8u9uAuBuCuDuEuFt80u1u2u3u4u5u6u7u8u9uAuBuCuDuEuFt90u1u2u3u4u5u
    6u7u8u9uAuBuCuDuEuFtA0u1u2u3u4u5u6u7u8u9uAuBuCuDuEuFtB0u1u2u3u4u5u6u7u8u9uAuBuCuDuEuFtC0u1u2u3
    u4u5u6u7u8u9uAuBuCuDuEuFtD0u1u2u3u4u5u6u7u8u9uAuBuCuDuEuFtE0u1u2u3u4u5u6u7u8u9uAuBuCuDuEuFtF0u
    1u2u3u4u5u6u7u8u9uAuBuCuDuEuFs200u1u2u3u4u5u6u7u8u9uAuBuCuDuEuFt10u1u2u3u4u5u6u7u8u9uAuBuCuDuE
    uFt20u1u2u3u4u5u6u7u8u9uAuBuCuDuEuFt30u1u2u3u4u5u6u7u8u9uAuBuCuDuEuFt40u1u2u3u4u5u6u7u8u9uAuBu
    CuDuEuFt50u1u2u3u4u5u6u7u8u9uAuBuCuDuEuFt60u1u2u3u4u5u6u7u8u9uAuBuCuDuEuFt70u1u2u3u4u5u6u7u8u9
    uAuBuCuDuEuFt80u1u2u3u4u5u6u7u8u9uAuBuCuDuEuFt90u1u2u3u4u5u6u7u8u9uAuBuCuDuEuFtA0u1u2u3u4u5u6u
    7u8u9uAuBuCuDuEuFtB0u1u2u3u4u5u6u7u8u9uAuBuCuDuEuFtC0u1u2u3u4u5u6u7u8u9uAuBuCuDuEuFtD0u1u2u3u4
    u5u6u7u8u9uAuBuCuDuEuFtE0u1u2u3u4u5u6u7u8u9uAuBuCuDuEuFtF0u1u2u3u4u5u6u7u8u9uAuB=1BC00aDUPLOYA
    N_LETTER_HqXqPqTqFqKqLqBqDqVqGqRqP_NqD_SqF_NqK_MqR_SqTHqSLOAN_DHqDHqKKqSLOAN_JqHLqLHqRHqMqNqJq
    SqM_NqN_MqJ_MqS_JqM_WITH_DOTqN_WITH_DOTqJ_WITH_DOTzbS_INSIDE_AND_ABOVEqS_WITH_DOTzb_BELOWqM_Sq
    N_SqJ_SqS_SqM_N_SqN_M_SqJ_M_SqS_J_SqJ_S_WITH_DOTsNt_SqS_Tt_RsPt_RqT_SsR_SqWrHr_RqS_NsMqK_R_SqG
    _R_SqS_Kt_RqAqSLOAN_OWqOAqOqAOUqIqEqIEqSHORT_IqUIqEEqSLOAN_EHqROMANIAN_IqSLOAN_EEqLONG_IqYEqUq
    EUqXWqU_NqLONG_UqROMANIAN_UqUHqSLOAN_UqOOHrWrUqWArOrIrEIrOWqNASAL_UwOwIwAqPERNIN_ANyMqSLOAN_EN
    wANwONqVOCALIC_M=1BC70jAFFIX_LEFT_HORIZONTAL_SECANTpMID_HORIZONTAL_SECANTpRIGHT_HORIZONTAL_SEC
    ANTpLOW_VERTICAL_SECANTpMID_VERTICAL_SECANTpHIGH_VERTICAL_SECANTpATTACHED_SECANTyLEFT-TO-RIGHT
    _SECANTyTANGENTzbILyE_HOOKyI_HOOKyTANGENT_HOOK=1BC80pHIGH_ACUTEuTIGHT_ACUTEuGRAVEuLONG_GRAVEuD
    OTuCIRCLEuLINEuWAVEuVERTICAL=1BC90pLOW_ACUTEtTIGHT_ACUTEtGRAVEtLONG_GRAVEtDOTtCIRCLEtLINEtWAVE
    tVERTICALtARROW=1BC9CjSIGN_O_WITH_CROSSjTHICK_LETTER_SELECTORjDOUBLE_MARKjPUNCTUATION_CHINOOK_
    FULL_STOPaSHORTHAND_FORMAT_LETTER_OVERLAPrCONTINUING_OVERLAPrDOWN_STEPrUP_STEP=1CF00aZNAMENNY_
    COMBINING_MARK_GORAZDO_NIZKO_S_KRYZHEM_ON_LEFTyNIZKO_S_KRYZHEM_ON_LEFTyTSATA_ON_LEFTyGORAZDO_N
    IZKO_ON_LEFTyNIZKO_ON_LEFTySREDNE_ON_LEFTyMALO_POVYSHE_ON_LEFTyPOVYSHE_ON_LEFTyVYSOKO_ON_LEFTy
    MALO_POVYSHE_S_KHOKHLOM_ON_LEFTyPOVYSHE_S_KHOKHLOM_ON_LEFTyVYSOKO_S_KHOKHLOM_ON_LEFTyGORAZDO_N
    IZKO_S_KRYZHEM_ON_RIGHTyNIZKO_S_KRYZHEM_ON_RIGHTyTSATA_ON_RIGHTyGORAZDO_NIZKO_ON_RIGHTyNIZKO_O
    N_RIGHTySREDNE_ON_RIGHTyMALO_POVYSHE_ON_RIGHTyPOVYSHE_ON_RIGHTyVYSOKO_ON_RIGHTyMALO_POVYSHE_S_
    KHOKHLOM_ON_RIGHTyPOVYSHE_S_KHOKHLOM_ON_RIGHTyVYSOKO_S_KHOKHLOM_ON_RIGHTyTSATA_S_KRYZHEMyMALO_
    POVYSHE_S_KRYZHEMySTRANNO_MALO_POVYSHEyPOVYSHE_S_KRYZHEMziTRANNOyVYSOKO_S_KRYZHEMyMALO_POVYSHE
    _STRANNOyGORAZDO_VYSOKOyZELOyONyRAVNOyTIKHAYAyBORZAYAyUDARKAyPODVERTKAyLOMKAyKUPNAYAzACHKAyZEV
    OKySKOBAyRAZSEKAyKRYZH_ON_LEFT=1CF30tTONAL_RANGE_MARK_MRACHNOzlSVETLOzlTRESVETLOtMARK_ZADERZHK
    AyDEMESTVENNY_ZADERZHKAyOTSECHKAyPODCHASHIEzj_WITH_VERTICAL_STROKEyCHASHKAzg_POLNAYAyOBLACHKOy
    SOROCHYA_NOZHKAyTOCHKAyDVOETOCHIEtATTACHING_VERTICAL_OMETtMARK_CURVED_OMETyKRYZHtLOWER_TONAL_R
    ANGE_INDICATORjPRIZNAK_MODIFIER_LEVEL-2zh3zbDIRECTION_FLIPzbKRYZHzbROG=1CF50jNEUME_KRYUKu_TIKH
    YpPARAKLITpDVA_V_CHELNUpKLYUCHpZANOZHEKpSTOPITSAx_S_OCHKOMpPEREVODKAy_NEPOSTOYANNAYApSTOPITSA_
    WITH_SOROCHYA_NOZHKApCHELYUSTKApPALKApZAPYATAYApGOLUBCHIK_BORZYzTIKHYzMRACHNYzSVETLYzTRESVETLY
    pVRAKHIYA_PROSTAYAyMRACHNAYAySVETLAYAyTRESVETLAYAyKLYUCHEVAYA_PROSTAYAzlMRACHNAYAzlSVETLAYAzlT
    RESVETLAYApDOUBLE_ZAPYATAYApREVERSED_CHELYUSTKApDERBITSApKHAMILOpCHASHKApPODCHASHIEpSKAMEYTSA_
    MRACHNAYAzSVETLAYAzTRESVETLAYAzbIKHAYApDEMESTVENNY_KLYUCHpSKAMEYTSA_KLYUCHEVAYA_SVETLAYAzhNEPO
    STOYANNAYAzhVAYA_TIKHAYAzDVOECHELNAYA_PROSTAYAznSVETLAYAznNEPOSTOYANNAYAznKLYUCHEVAYAqLOZHITIE
    y_S_ZAPYATOYzZAKRYTOEzS_KRYZHEMpKRYZHpROGpFITApKOBYLApZMEYTSApSTATYAv_S_ZAPYATOYyKRYZHEMyZAPYA
    TOY_I_KRYZHEMyKRYZHEM_I_ZAPYATOYwZAKRYTAYAzg_S_ZAPYATOYwS_ROGOMyDVUMYA_ZAPYATYMIyZAPYATOY_I_PO
    DCHASHIEMpPOLKULIZMYpSTATYA_NEPOSTOYANNAYArRELA_PROSTAYAwMRACHNOTIKHAYAwKRYZHEVAYAwPOLUPOVODNA
    YAyVODNAYAwNEPOSTOYANNAYAwKLYUCHEPOVODNAYAzeNEPOSTOYANNAYAwTIKHAYA_PUTNAYAwDVOECHELNAYAzgOKRYZ
    HEVAYAzhPOVODNAYAzgAYA_KLYUCHEVAYAzgOPOVODNAYA_KLYUCHEVAYAwGROMNAYA_WITH_SINGLE_ZAPYATAYAzbOPO
    VODNAYA_WITH_SINGLE_ZAPYATAYAzbNAYAzbOPOVODNAYAzl_WITH_DOUBLE_ZAPYATAYAzcKRYZHEVAYAzm_POVODNAY
    ApMECHIKv_POVODNYwKLYUCHEVOYzePOVODNYzeNEPOSTOYANNYpSTRELA_TRYASOGLASNAYAzdPOVODNAYAzdSTRELNAY
    ApOSOKAu_SVETLAYAvTRESVETLAYAvKRYUKOVAYA_SVETLAYAwLYUCHEVAYA_SVETLAYAziNEPOSTOYANNAYApSTRELA_K
    RYUKOVAYAzh_POVODNAYAziGROMNAYA_WITH_SINGLE_ZAPYATAYAzmOPOVODNAYA_WITH_SINGLE_ZAPYATAYAzmNAYAz
    mOPOVODNAYAzw_WITH_DOUBLE_ZAPYATAYAznKRYZHEVAYAzx_POVODNAYAziTRYASKApKUFISMApOBLAKOpDUDApNEMKA
    pPAUK"

end Assay.Text
